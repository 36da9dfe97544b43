import Mathlib.Logic.Function.Basic
import SigmaMedia.Core.Registry

/-!
# The Directory Behind the Registry

What a registry says about who is there, without anything a session does: for
every id a role, a pair of usernames and an address, and the three indexes. A
directory is changed in four ways, and each is a handful of point updates.

Three properties are wanted of it. It is `Consistent` when rooms and streamers
belong to each other one to one and every room lists exactly its viewers. It
is `Indexed` when no index leads to a session that is gone or has another
name. It is `Routed` when every address leads to the session that has it. Each
change preserves the first as long as new ids are new, and the second as long
as usernames are new too. Each preserves the third, except that giving a
session an address takes it away from whoever had it.

## Main definitions

* `Role`, `Outline`: What is kept of a session.
* `Directory`: What is kept of a registry.
* `addStreamer`, `addViewer`, `nominate`, `remove`: The four changes.
* `Filed`: Sessions are filed under their ids.
* `Fresh`: An id nothing refers to.
* `Consistent`, `Indexed`, `Routed`: The three properties.

## Theorems

* `Filed.update`, `Filed.remove`: Sessions stay filed under their ids.
* `Consistent.addStreamer`, `Consistent.addViewer`, `Consistent.nominate`,
  `Consistent.remove`: The first is preserved.
* `Indexed.add`, `Indexed.nominate`, `Indexed.remove`: So is the second.
* `Routed.add`, `Routed.remove`: So is the third.
* `routed_nominate_iff`: A nomination preserves it exactly when nobody else
  has the address.
-/

namespace SigmaMedia

open Function Net Stun

/-- What a session is there for. -/
inductive Role where
  | viewer (room : RoomID)
  | streamer (room : RoomID)
  deriving DecidableEq

/-- What a directory keeps of a session. -/
structure Outline where
  id : ResourceID
  role : Role
  username : SessionUsername
  address : Option SocketAddr

/-- What is kept of a registry. -/
structure Directory where
  sessions : ResourceID → Option Outline
  usernames : SessionUsername → Option ResourceID
  addresses : SocketAddr → Option ResourceID
  rooms : RoomID → Option Room

namespace Directory

/-- A streamer and its room are entered. -/
def addStreamer (d : Directory) (username : SessionUsername) (room id : UInt32) : Directory :=
  { d with
    sessions := update d.sessions id (some ⟨id, .streamer room, username, none⟩),
    usernames := update d.usernames username (some id),
    rooms := update d.rooms room (some (Room.new room id)) }

/-- A viewer of a room is entered. -/
def addViewer (d : Directory) (username : SessionUsername) (target : RoomID) (room : Room)
    (id : ResourceID) : Directory :=
  { d with
    sessions := update d.sessions id (some ⟨id, .viewer target, username, none⟩),
    usernames := update d.usernames username (some id),
    rooms := update d.rooms target (some { room with viewerIds := insert id room.viewerIds }) }

/-- A session gets an address, which leads to it now. -/
def nominate (d : Directory) (id : ResourceID) (o : Outline) (address : SocketAddr) : Directory :=
  { d with
    sessions := update d.sessions id (some { o with address := some address }),
    addresses := update d.addresses address (some id) }

/-- A session goes, and with it what leads to it. -/
def remove (d : Directory) (id : ResourceID) (o : Outline) : Directory :=
  { sessions := update d.sessions id none,
    usernames := update d.usernames o.username none,
    addresses := match o.address with
      | some address => update d.addresses address none
      | none => d.addresses,
    rooms := match o.role with
      | .viewer room => update d.rooms room ((d.rooms room).map fun r =>
          { r with viewerIds := r.viewerIds.erase id })
      | .streamer room => update d.rooms room none }

/-- Sessions are filed under their ids. -/
def Filed (d : Directory) : Prop := ∀ k o, d.sessions k = some o → o.id = k

/-- Nothing refers to an id: not a session, not a room, not the room a viewer
    has left behind. -/
structure Fresh (d : Directory) (id : UInt32) : Prop where
  session : d.sessions id = none
  room : d.rooms id = none
  viewer : ∀ k o, d.sessions k = some o → o.role ≠ .viewer id

/-- Rooms and streamers belong to each other, and rooms list their viewers. -/
structure Consistent (d : Directory) : Prop where
  filed : d.Filed
  owned : ∀ r room, d.rooms r = some room →
    room.id = r ∧ ∃ o, d.sessions room.ownerId = some o ∧ o.role = .streamer r
  owns : ∀ k o r, d.sessions k = some o → o.role = .streamer r →
    ∃ room, d.rooms r = some room ∧ room.ownerId = k
  listed : ∀ r room, d.rooms r = some room →
    ∀ k, k ∈ room.viewerIds ↔ ∃ o, d.sessions k = some o ∧ o.role = .viewer r

section Telling

variable {d : Directory}

/-- A session that is there is not one that is not. -/
theorem ne_of_none {id k : ResourceID} {o : Outline} (hid : d.sessions id = none)
    (ho : d.sessions k = some o) : k ≠ id := by
  rintro rfl
  rw [hid] at ho
  cases ho

/-- Sessions that differ in anything are two sessions. -/
theorem ne_of_differ {β : Type} {id k : ResourceID} {o o' : Outline} (f : Outline → β)
    (ho : d.sessions id = some o) (ho' : d.sessions k = some o') (hne : f o' ≠ f o) : k ≠ id := by
  rintro rfl
  rw [ho] at ho'
  cases ho'
  exact hne rfl

/-- The sessions that are left after a removal. -/
theorem remove_sessions_iff {id : ResourceID} {o : Outline} (k : ResourceID) (o' : Outline) :
    (d.remove id o).sessions k = some o' ↔ k ≠ id ∧ d.sessions k = some o' := by
  simp only [Directory.remove, update_apply]
  by_cases hk : k = id
  · simp only [hk, if_true, reduceCtorEq, ne_eq, not_true_eq_false, false_and]
  · simp only [hk, if_false, ne_eq, not_false_eq_true, true_and]

/-- A role that is not the removed session's is held by the same sessions as
    before. -/
theorem remove_role_iff {id k : ResourceID} {o : Outline} {role : Role}
    (ho : d.sessions id = some o) (hrole : role ≠ o.role) :
    (∃ o', (d.remove id o).sessions k = some o' ∧ o'.role = role) ↔
      ∃ o', d.sessions k = some o' ∧ o'.role = role := by
  constructor
  · intro hleft
    rcases hleft with ⟨o', ho', hrole'⟩
    exact ⟨o', ((remove_sessions_iff k o').mp ho').2, hrole'⟩
  · intro hheld
    rcases hheld with ⟨o', ho', hrole'⟩
    have hk := ne_of_differ Outline.role ho ho' (by rw [hrole']; exact hrole)
    exact ⟨o', (remove_sessions_iff k o').mpr ⟨hk, ho'⟩, hrole'⟩

end Telling

section Filing

variable {d : Directory}

/-- A session is written under its own id. -/
theorem Filed.update (h : d.Filed) {d' : Directory} {id : ResourceID} {o : Outline}
    (hsessions : d'.sessions = Function.update d.sessions id (some o)) (hid : o.id = id) :
    d'.Filed := by
  intro k o' hk
  rw [hsessions, update_apply] at hk
  split at hk
  · rename_i heq
    cases hk
    exact hid.trans heq.symm
  · exact h k o' hk

theorem Filed.remove (h : d.Filed) {id : ResourceID} {o : Outline} : (d.remove id o).Filed := by
  intro k o' hk
  simp only [Directory.remove, update_apply] at hk
  split at hk
  · cases hk
  · exact h k o' hk

end Filing

section Consistency

variable {d : Directory}

theorem Consistent.addStreamer (h : d.Consistent) {username : SessionUsername} {room id : UInt32}
    (hroom : d.Fresh room) (hid : d.Fresh id) : (d.addStreamer username room id).Consistent where
  filed := h.filed.update rfl rfl
  owned := by
    intro r found hr
    simp only [Directory.addStreamer, update_apply] at hr ⊢
    split at hr
    · rename_i heq
      cases hr
      exact ⟨heq.symm, _, if_pos rfl, by rw [heq]⟩
    · rcases h.owned r found hr with ⟨hrid, o, ho, hrole⟩
      exact ⟨hrid, o, by rw [if_neg (ne_of_none hid.session ho), ho], hrole⟩
  owns := by
    intro k o r hk hrole
    simp only [Directory.addStreamer, update_apply] at hk ⊢
    split at hk
    · rename_i heq
      cases hk
      cases hrole
      exact ⟨_, if_pos rfl, heq.symm⟩
    · rcases h.owns k o r hk hrole with ⟨found, hfound, howner⟩
      have hne : r ≠ room := by
        rintro rfl
        rw [hroom.room] at hfound
        cases hfound
      exact ⟨found, by rw [if_neg hne, hfound], howner⟩
  listed := by
    intro r found hr k
    simp only [Directory.addStreamer, update_apply] at hr ⊢
    split at hr
    · -- Nobody watches the new room yet.
      rename_i heq
      cases hr
      refine ⟨fun hmem => absurd hmem (Finset.notMem_empty k), ?_⟩
      intro h
      rcases h with ⟨o, ho, hrole⟩
      split at ho
      · cases ho
        cases hrole
      · rw [heq] at hrole
        exact absurd hrole (hroom.viewer k o ho)
    · rw [h.listed r found hr k]
      constructor
      · intro h
        rcases h with ⟨o, ho, hrole⟩
        exact ⟨o, by rw [if_neg (ne_of_none hid.session ho), ho], hrole⟩
      · intro h
        rcases h with ⟨o, ho, hrole⟩
        split at ho
        · cases ho
          cases hrole
        · exact ⟨o, ho, hrole⟩

theorem Consistent.addViewer (h : d.Consistent) {username : SessionUsername} {target : RoomID}
    {room : Room} {id : ResourceID} (hroom : d.rooms target = some room) (hid : d.Fresh id) :
    (d.addViewer username target room id).Consistent where
  filed := h.filed.update rfl rfl
  owned := by
    intro r found hr
    simp only [Directory.addViewer, update_apply] at hr ⊢
    -- The owner of a room is live, so it is not the new session.
    have howner : ∀ room', d.rooms r = some room' →
        room'.id = r ∧ ∃ o, (if room'.ownerId = id then
          some ⟨id, .viewer target, username, none⟩ else d.sessions room'.ownerId) = some o ∧
          o.role = .streamer r := by
      intro room' hroom'
      rcases h.owned r room' hroom' with ⟨hrid, o, ho, hrole⟩
      exact ⟨hrid, o, by rw [if_neg (ne_of_none hid.session ho), ho], hrole⟩
    split at hr
    · rename_i heq
      cases hr
      rw [heq] at howner
      rw [heq]
      exact howner room hroom
    · exact howner found hr
  owns := by
    intro k o r hk hrole
    simp only [Directory.addViewer, update_apply] at hk ⊢
    split at hk
    · cases hk
      cases hrole
    · rcases h.owns k o r hk hrole with ⟨found, hfound, howner⟩
      by_cases heq : r = target
      · rw [heq, hroom] at hfound
        cases hfound
        exact ⟨_, if_pos heq, howner⟩
      · exact ⟨found, by rw [if_neg heq, hfound], howner⟩
  listed := by
    intro r found hr k
    simp only [Directory.addViewer, update_apply] at hr ⊢
    by_cases hk : k = id
    · -- The new session watches its own room and no other.
      simp only [hk, if_true, Option.some.injEq, exists_eq_left']
      split at hr
      · rename_i heq
        cases hr
        exact ⟨fun _ => by rw [heq], fun _ => Finset.mem_insert_self _ _⟩
      · rename_i hne
        rw [h.listed r found hr id]
        constructor
        · intro h
          rcases h with ⟨o, ho, _⟩
          exact absurd rfl (ne_of_none hid.session ho)
        · intro hrole
          cases hrole
          exact absurd rfl hne
    · simp only [hk, if_false]
      split at hr
      · rename_i heq
        cases hr
        rw [Finset.mem_insert, heq]
        exact ⟨fun hm => (h.listed target room hroom k).mp (hm.resolve_left hk),
          fun ho => Or.inr ((h.listed target room hroom k).mpr ho)⟩
      · exact h.listed r found hr k

/-- Giving a session an address changes neither its id nor its role. -/
theorem Consistent.nominate (h : d.Consistent) {id : ResourceID} {o : Outline}
    (ho : d.sessions id = some o) (address : SocketAddr) :
    (d.nominate id o address).Consistent := by
  -- Roles are looked up as before.
  have hroles : ∀ k r, (∃ o', (d.nominate id o address).sessions k = some o' ∧ o'.role = r) ↔
      ∃ o', d.sessions k = some o' ∧ o'.role = r := by
    intro k r
    simp only [Directory.nominate, update_apply]
    by_cases hk : k = id
    · simp only [hk, if_true, ho, Option.some.injEq, exists_eq_left']
    · simp only [hk, if_false]
  refine ⟨h.filed.update rfl (h.filed id o ho), ?_, ?_, ?_⟩
  · intro r found hr
    rcases h.owned r found hr with ⟨hrid, howner⟩
    exact ⟨hrid, (hroles _ _).mpr howner⟩
  · intro k o' r hk hrole
    rcases (hroles k (.streamer r)).mp ⟨o', hk, hrole⟩ with ⟨o'', hk', hrole'⟩
    exact h.owns k o'' r hk' hrole'
  · intro r found hr k
    rw [h.listed r found hr k, hroles]

/-- A viewer leaves the list of its room, if the room is still there. -/
theorem Consistent.remove_viewer (h : d.Consistent) {id : ResourceID} {o : Outline}
    (ho : d.sessions id = some o) {room : RoomID} (hrole : o.role = .viewer room) :
    (d.remove id o).Consistent := by
  have hrooms : ∀ r, (d.remove id o).rooms r = if r = room then
      (d.rooms r).map fun r => { r with viewerIds := r.viewerIds.erase id } else d.rooms r := by
    intro r
    simp only [Directory.remove, hrole, update_apply]
    by_cases hr : r = room
    · rw [if_pos hr, if_pos hr, hr]
    · rw [if_neg hr, if_neg hr]
  -- A room that is left has lost at most the viewer.
  have hstay : ∀ r found, (d.remove id o).rooms r = some found → ∃ found',
      d.rooms r = some found' ∧ found.id = found'.id ∧ found.ownerId = found'.ownerId ∧
      found.viewerIds = if r = room then found'.viewerIds.erase id else found'.viewerIds := by
    intro r found hr
    rw [hrooms] at hr
    by_cases hroom : r = room
    · rw [if_pos hroom, Option.map_eq_some_iff] at hr
      rcases hr with ⟨found', hfound', rfl⟩
      exact ⟨found', hfound', rfl, rfl, (if_pos hroom).symm⟩
    · rw [if_neg hroom] at hr
      exact ⟨found, hr, rfl, rfl, (if_neg hroom).symm⟩
  refine ⟨h.filed.remove, ?_, ?_, ?_⟩
  · intro r found hr
    rcases hstay r found hr with ⟨found', hfound', hid, howner, _⟩
    rcases h.owned r found' hfound' with ⟨hrid, howned⟩
    have hother : Role.streamer r ≠ o.role := by
      rw [hrole]
      intro hsame
      cases hsame
    rw [howner, remove_role_iff ho hother]
    exact ⟨hid.trans hrid, howned⟩
  · intro k o' r hk hrole'
    rcases (remove_sessions_iff k o').mp hk with ⟨_, hk'⟩
    rcases h.owns k o' r hk' hrole' with ⟨found, hfound, howner⟩
    rw [hrooms, hfound]
    split
    · exact ⟨_, rfl, howner⟩
    · exact ⟨found, rfl, howner⟩
  · intro r found hr k
    rcases hstay r found hr with ⟨found', hfound', _, _, hviewers⟩
    have hlisted := h.listed r found' hfound' k
    rw [hviewers]
    by_cases hroom : r = room
    · rw [if_pos hroom, Finset.mem_erase, hlisted]
      simp only [remove_sessions_iff]
      exact ⟨fun ⟨hk, o', ho', hr'⟩ => ⟨o', ⟨hk, ho'⟩, hr'⟩,
        fun ⟨o', ⟨hk, ho'⟩, hr'⟩ => ⟨hk, o', ho', hr'⟩⟩
    · -- In any other room the removed session was no viewer.
      have hother : Role.viewer r ≠ o.role := by
        rw [hrole]
        exact fun hsame => hroom (Role.viewer.inj hsame)
      rw [if_neg hroom, hlisted, remove_role_iff ho hother]

/-- A streamer takes its room with it; its viewers stay behind. -/
theorem Consistent.remove_streamer (h : d.Consistent) {id : ResourceID} {o : Outline}
    (ho : d.sessions id = some o) {room : RoomID} (hrole : o.role = .streamer room) :
    (d.remove id o).Consistent := by
  have hrooms : ∀ r found, (d.remove id o).rooms r = some found ↔
      r ≠ room ∧ d.rooms r = some found := by
    intro r found
    simp only [Directory.remove, hrole, update_apply]
    by_cases hr : r = room
    · simp only [hr, if_true, reduceCtorEq, ne_eq, not_true_eq_false, false_and]
    · simp only [hr, if_false, ne_eq, not_false_eq_true, true_and]
  -- The room that goes is the removed session's own, and nobody else's.
  rcases h.owns id o room ho hrole with ⟨owned, howned, howner⟩
  refine ⟨h.filed.remove, ?_, ?_, ?_⟩
  · intro r found hr
    rcases (hrooms r found).mp hr with ⟨hne, hr'⟩
    have hother : Role.streamer r ≠ o.role := by
      rw [hrole]
      exact fun hsame => hne (Role.streamer.inj hsame)
    rw [remove_role_iff ho hother]
    exact h.owned r found hr'
  · intro k o' r hk hrole'
    rcases (remove_sessions_iff k o').mp hk with ⟨hne, hk'⟩
    rcases h.owns k o' r hk' hrole' with ⟨found, hfound, howner'⟩
    refine ⟨found, (hrooms r found).mpr ⟨?_, hfound⟩, howner'⟩
    rintro rfl
    rw [howned] at hfound
    cases hfound
    exact hne (howner'.symm.trans howner)
  · intro r found hr k
    rcases (hrooms r found).mp hr with ⟨_, hr'⟩
    have hother : Role.viewer r ≠ o.role := by
      rw [hrole]
      intro hsame
      cases hsame
    rw [h.listed r found hr' k, remove_role_iff ho hother]

theorem Consistent.remove (h : d.Consistent) {id : ResourceID} {o : Outline}
    (ho : d.sessions id = some o) : (d.remove id o).Consistent := by
  cases hrole : o.role with
  | viewer room => exact h.remove_viewer ho hrole
  | streamer room => exact h.remove_streamer ho hrole

end Consistency

/-- The indexes never dangle: usernames lead to exactly the sessions that have
    them, and an address leads to a session that has it. -/
structure Indexed (d : Directory) : Prop where
  usernames : ∀ u k, d.usernames u = some k ↔ ∃ o, d.sessions k = some o ∧ o.username = u
  addresses : ∀ a k, d.addresses a = some k → ∃ o, d.sessions k = some o ∧ o.address = some a

section Indexing

variable {d : Directory}

/-- A new session under a new username takes nobody's place. -/
theorem Indexed.add (h : d.Indexed) {d' : Directory} {id : ResourceID} {o : Outline}
    (hsessions : d'.sessions = update d.sessions id (some o))
    (husernames : d'.usernames = update d.usernames o.username (some id))
    (haddresses : d'.addresses = d.addresses) (hid : d.sessions id = none)
    (hnew : ∀ k o', d.sessions k = some o' → o'.username ≠ o.username) : d'.Indexed where
  usernames := by
    intro u k
    rw [husernames, hsessions, update_apply, update_apply]
    by_cases hk : k = id
    · -- The new session is found by its own username and by no other.
      rw [if_pos hk, hk]
      by_cases hu : u = o.username
      · rw [if_pos hu, hu]
        exact ⟨fun _ => ⟨o, rfl, rfl⟩, fun _ => rfl⟩
      · rw [if_neg hu, h.usernames, hid]
        constructor
        · intro hnone
          rcases hnone with ⟨o', ho', _⟩
          cases ho'
        · intro hfound
          rcases hfound with ⟨o', ho', hu'⟩
          cases ho'
          exact absurd hu'.symm hu
    · rw [if_neg hk]
      by_cases hu : u = o.username
      · -- Nobody else has the new username.
        rw [if_pos hu, hu]
        constructor
        · intro heq
          cases heq
          exact absurd rfl hk
        · intro hfound
          rcases hfound with ⟨o', ho', hu'⟩
          exact absurd hu' (hnew k o' ho')
      · rw [if_neg hu]
        exact h.usernames u k
  addresses := by
    intro a k ha
    rw [haddresses] at ha
    rcases h.addresses a k ha with ⟨o', ho', ha'⟩
    exact ⟨o', by rw [hsessions, update_apply, if_neg (ne_of_none hid ho'), ho'], ha'⟩

/-- A session that has no address yet can be given any: the entry it takes
    over was somebody else's, and it leaves none of its own behind. -/
theorem Indexed.nominate (h : d.Indexed) {id : ResourceID} {o : Outline}
    (ho : d.sessions id = some o) (hnone : o.address = none) (address : SocketAddr) :
    (d.nominate id o address).Indexed where
  usernames := by
    intro u k
    simp only [Directory.nominate, update_apply]
    rw [h.usernames]
    by_cases hk : k = id
    · rw [if_pos hk, hk, ho]
      simp only [Option.some.injEq, exists_eq_left']
    · rw [if_neg hk]
  addresses := by
    intro a k ha
    simp only [Directory.nominate, update_apply] at ha ⊢
    by_cases haddress : a = address
    · rw [if_pos haddress] at ha
      cases ha
      exact ⟨_, if_pos rfl, by rw [haddress]⟩
    · rw [if_neg haddress] at ha
      rcases h.addresses a k ha with ⟨o', ho', ha'⟩
      -- An address that was there already is not the nominated session's.
      have hdiffer : o'.address ≠ o.address := by
        rw [ha', hnone]
        exact Option.some_ne_none a
      have hk := ne_of_differ Outline.address ho ho' hdiffer
      exact ⟨o', by rw [if_neg hk, ho'], ha'⟩

/-- A removed session takes its entries with it. -/
theorem Indexed.remove (h : d.Indexed) {id : ResourceID} {o : Outline}
    (ho : d.sessions id = some o) : (d.remove id o).Indexed where
  usernames := by
    intro u k
    simp only [Directory.remove, update_apply]
    by_cases hk : k = id
    · rw [if_pos hk]
      constructor
      · intro hu
        split at hu
        · cases hu
        · rename_i hne
          rcases (h.usernames u k).mp hu with ⟨o', ho', hu'⟩
          rw [hk, ho] at ho'
          cases ho'
          exact absurd hu'.symm hne
      · intro hfound
        rcases hfound with ⟨o', ho', _⟩
        cases ho'
    · rw [if_neg hk]
      by_cases hu : u = o.username
      · -- The username was the removed session's, so it was nobody else's.
        rw [if_pos hu]
        constructor
        · intro hnone
          cases hnone
        · intro hfound
          have hfirst := (h.usernames u k).mpr hfound
          rw [(h.usernames u id).mpr ⟨o, ho, hu.symm⟩] at hfirst
          cases hfirst
          exact absurd rfl hk
      · rw [if_neg hu]
        exact h.usernames u k
  addresses := by
    intro a k ha
    have hold : d.addresses a = some k ∧ o.address ≠ some a := by
      simp only [Directory.remove] at ha
      rcases haddress : o.address with _ | address
      · rw [haddress] at ha
        exact ⟨ha, fun hnone => by cases hnone⟩
      · simp only [haddress, update_apply] at ha
        split at ha
        · cases ha
        · rename_i hne
          exact ⟨ha, fun hsome => hne (Option.some.inj hsome).symm⟩
    rcases h.addresses a k hold.1 with ⟨o', ho', ha'⟩
    have hdiffer : o'.address ≠ o.address := by
      rw [ha']
      exact Ne.symm hold.2
    have hk := ne_of_differ Outline.address ho ho' hdiffer
    exact ⟨o', by simp only [Directory.remove, update_apply, if_neg hk, ho'], ha'⟩

end Indexing

/-- Every address leads to the session that has it. -/
def Routed (d : Directory) : Prop :=
  ∀ k o a, d.sessions k = some o → o.address = some a → d.addresses a = some k

section Routing

variable {d : Directory}

/-- A session without an address does not get in the way of any other. -/
theorem Routed.add (h : d.Routed) {d' : Directory} {id : ResourceID} {o : Outline}
    (hsessions : d'.sessions = update d.sessions id (some o)) (hnone : o.address = none)
    (haddresses : d'.addresses = d.addresses) : d'.Routed := by
  intro k o' a hk ha
  rw [hsessions, update_apply] at hk
  rw [haddresses]
  split at hk
  · cases hk
    rw [hnone] at ha
    cases ha
  · exact h k o' a hk ha

/-- Removing a session takes only its own address with it. -/
theorem Routed.remove (h : d.Routed) {id : ResourceID} {o : Outline}
    (ho : d.sessions id = some o) : (d.remove id o).Routed := by
  intro k o' a hk ha
  simp only [Directory.remove, update_apply] at hk ⊢
  split at hk
  · cases hk
  · rename_i hne
    have hroute := h k o' a hk ha
    cases haddr : o.address with
    | none => exact hroute
    | some address =>
        -- Two sessions cannot share an address both of them are found by.
        have hdiff : a ≠ address := by
          rintro rfl
          rw [h id o a ho haddr] at hroute
          cases hroute
          exact hne rfl
        simp only [update_apply, if_neg hdiff]
        exact hroute

/-- Giving a session an address keeps the others routed exactly when none of
    them has it. -/
theorem routed_nominate_iff (h : d.Routed) {id : ResourceID} {o : Outline}
    (ho : d.sessions id = some o) (hnone : o.address = none) (address : SocketAddr) :
    (d.nominate id o address).Routed ↔
      ∀ k o', d.sessions k = some o' → o'.address ≠ some address := by
  constructor
  · intro hrouted k o' hk ha
    -- The one that has the address has lost its entry to the nominated session.
    have hdiffer : o'.address ≠ o.address := by
      rw [ha, hnone]
      exact Option.some_ne_none address
    have hne := ne_of_differ Outline.address ho hk hdiffer
    have hfound := hrouted k o' address (by
      simp only [Directory.nominate, update_apply, if_neg hne, hk]) ha
    simp only [Directory.nominate, update_apply, if_true, Option.some.injEq] at hfound
    exact hne hfound.symm
  · intro hnobody k o' a hk ha
    simp only [Directory.nominate, update_apply] at hk ⊢
    split at hk
    · rename_i heq
      cases hk
      cases ha
      rw [if_pos rfl, heq]
    · have hdiff : a ≠ address := by
        rintro rfl
        exact hnobody k o' hk ha
      rw [if_neg hdiff]
      exact h k o' a hk ha

end Routing

end Directory

end SigmaMedia
