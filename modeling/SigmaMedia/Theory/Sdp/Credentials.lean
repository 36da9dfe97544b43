import SigmaMedia.Theory.Negotiation
import SigmaMedia.Theory.Sdp.Search

/-!
# Which Credentials Count

Credentials at session level are defaults, and credentials in a media section
override them. Overriding is meant to be all or nothing: one media line of
either kind commits the offer to both lines in both sections, and to the same
values.

The code asks whether a media section names a user, and takes the answer for
both kinds of line. So a password that comes without a user in a media section
is passed over, and with credentials at session level the offer is taken for
one without media credentials. That is the one case in which the rule and the
code part, and `followsOverride_iff` says that there is no other.

## Main definitions

* `NamesUser`, `NamesPassword`: A section has a line of the kind.
* `OverrideRule`: The credentials the rule asks for.
* `FollowsOverride`: The code finds the credentials of the rule.
* `PasswordPassedOver`: A media password without a user, and defaults.

## Theorems

* `getIceCredentials_eq_media`, `getIceCredentials_eq_session`: What the code
  takes, by the users it finds.
* `followsOverride_iff`: When the code follows the rule.
-/

namespace SigmaMedia

namespace Sdp

open Exec Net Text

/-- A username line. -/
def userLine (username : ICEUsername) : SDPLine := .attr (.iceUsername username)

/-- A password line. -/
def passwordLine (password : ICEPassword) : SDPLine := .attr (.icePassword password)

/-- A section has a username line. -/
def NamesUser (lines : List SDPLine) : Prop := ∃ username, userLine username ∈ lines

/-- A section has a password line. -/
def NamesPassword (lines : List SDPLine) : Prop := ∃ password, passwordLine password ∈ lines

/-- The media sections of an offer. -/
def SDP.mediaSections (sdp : SDP) : List (List SDPLine) := [sdp.audioSection, sdp.videoSection]

/-- Credentials from the media sections: one of them has a line of either
    kind, and both of them have the same ones first. -/
def MediaCredentials (sdp : SDP) (username : ICEUsername) (password : ICEPassword) : Prop :=
  (∃ media ∈ sdp.mediaSections, NamesUser media ∨ NamesPassword media) ∧
    ∀ media ∈ sdp.mediaSections,
      First userLine media username ∧ First passwordLine media password

/-- Credentials from the session section: no media section has a line of
    either kind. -/
def SessionCredentials (sdp : SDP) (username : ICEUsername) (password : ICEPassword) : Prop :=
  (∀ media ∈ sdp.mediaSections, ¬ NamesUser media ∧ ¬ NamesPassword media) ∧
    First userLine sdp.sessionSection username ∧ First passwordLine sdp.sessionSection password

/-- The credentials the rule asks for. -/
def OverrideRule (sdp : SDP) (username : ICEUsername) (password : ICEPassword) : Prop :=
  MediaCredentials sdp username password ∨ SessionCredentials sdp username password

/-- The code finds credentials exactly when the rule asks for some, and it
    finds these. -/
def FollowsOverride (sdp : SDP) (draws : Draws) : Prop :=
  ∀ username password, (∃ credentials, getIceCredentials sdp draws = some credentials ∧
    credentials.remoteUsername = username.username ∧
    credentials.remotePassword = password.password) ↔ OverrideRule sdp username password

/-- A media section has a password, neither has a user, and the session
    section has both. -/
def PasswordPassedOver (sdp : SDP) : Prop :=
  (∃ media ∈ sdp.mediaSections, NamesPassword media) ∧
    (∀ media ∈ sdp.mediaSections, ¬ NamesUser media) ∧
    NamesUser sdp.sessionSection ∧ NamesPassword sdp.sessionSection

theorem getIceUsername_eq_some {lines : List SDPLine} {username : ICEUsername} :
    getIceUsername lines = some username ↔ First userLine lines username := by
  refine findSome?_eq_some_iff_first fun line value => ?_
  cases line with
  | attr attr =>
      cases attr with
      | iceUsername name =>
          simp only [Option.some.injEq, userLine, SDPLine.attr.injEq, Attribute.iceUsername.injEq]
      | _ => simp only [userLine, reduceCtorEq, SDPLine.attr.injEq]
  | _ => simp only [userLine, reduceCtorEq]

theorem getIcePassword_eq_some {lines : List SDPLine} {password : ICEPassword} :
    getIcePassword lines = some password ↔ First passwordLine lines password := by
  refine findSome?_eq_some_iff_first fun line value => ?_
  cases line with
  | attr attr =>
      cases attr with
      | icePassword name =>
          simp only [Option.some.injEq, passwordLine, SDPLine.attr.injEq,
            Attribute.icePassword.injEq]
      | _ => simp only [passwordLine, reduceCtorEq, SDPLine.attr.injEq]
  | _ => simp only [passwordLine, reduceCtorEq]

theorem getIceUsername_isSome {lines : List SDPLine} :
    (getIceUsername lines).isSome ↔ NamesUser lines := by
  rw [Option.isSome_iff_exists, NamesUser, ← exists_first]
  simp only [getIceUsername_eq_some]

section Found

variable {sdp : SDP} {draws : Draws} {username : ICEUsername} {password : ICEPassword}

theorem forall_mediaSections {p : List SDPLine → Prop} :
    (∀ media ∈ sdp.mediaSections, p media) ↔ p sdp.audioSection ∧ p sdp.videoSection := by
  simp only [SDP.mediaSections, List.forall_mem_cons, List.not_mem_nil, false_implies,
    implies_true, and_true]

theorem exists_mediaSections {p : List SDPLine → Prop} :
    (∃ media ∈ sdp.mediaSections, p media) ↔ p sdp.audioSection ∨ p sdp.videoSection := by
  simp only [SDP.mediaSections, List.mem_cons, List.not_mem_nil, or_false, exists_eq_or_imp,
    exists_eq_left]

/-- With a user in a media section, the code takes what both sections have
    first. -/
theorem getIceCredentials_eq_media (h : ∃ media ∈ sdp.mediaSections, NamesUser media) :
    (∃ credentials, getIceCredentials sdp draws = some credentials ∧
        credentials.remoteUsername = username.username ∧
        credentials.remotePassword = password.password) ↔
      ∀ media ∈ sdp.mediaSections,
        First userLine media username ∧ First passwordLine media password := by
  -- A username in either media section is what makes the code look there.
  have hsome : ((getIceUsername sdp.audioSection).isSome
      || (getIceUsername sdp.videoSection).isSome) = true := by
    rw [Bool.or_eq_true, getIceUsername_isSome, getIceUsername_isSome]
    exact exists_mediaSections.mp h
  simp only [getIceCredentials, hsome, if_true, Option.bind_eq_bind, Option.bind_eq_some_iff,
    forall_mediaSections, ← getIceUsername_eq_some, ← getIcePassword_eq_some]
  constructor
  · intro h
    rcases h with ⟨credentials, ⟨au, hau, ap, hap, vu, hvu, vp, hvp, hsame⟩, hu, hp⟩
    -- The four values have been found; they still have to agree.
    split at hsame
    · cases hsame
    rename_i hagree
    rw [not_or, not_not, not_not] at hagree
    rcases hagree with ⟨rfl, rfl⟩
    cases hsame
    have hau' : au = username := ICEUsername.mk.injEq _ _ ▸ hu
    have hap' : ap = password := ICEPassword.mk.injEq _ _ ▸ hp
    rw [← hau', ← hap']
    exact ⟨⟨hau, hap⟩, hvu, hvp⟩
  · intro h
    rcases h with ⟨⟨hau, hap⟩, hvu, hvp⟩
    exact ⟨_, ⟨username, hau, password, hap, username, hvu, password, hvp,
      if_neg (by simp only [ne_eq, not_true_eq_false, or_self, not_false_eq_true])⟩, rfl, rfl⟩

/-- Without one, the code takes what the session section has first. -/
theorem getIceCredentials_eq_session (h : ∀ media ∈ sdp.mediaSections, ¬ NamesUser media) :
    (∃ credentials, getIceCredentials sdp draws = some credentials ∧
        credentials.remoteUsername = username.username ∧
        credentials.remotePassword = password.password) ↔
      First userLine sdp.sessionSection username ∧
        First passwordLine sdp.sessionSection password := by
  -- Without a username in either the media sections are not looked at.
  rcases forall_mediaSections.mp h with ⟨haudio, hvideo⟩
  rw [← getIceUsername_isSome, Bool.not_eq_true] at haudio hvideo
  simp only [getIceCredentials, haudio, hvideo, Bool.or_self, Bool.false_eq_true, if_false,
    Option.bind_eq_bind, Option.bind_eq_some_iff, ← getIceUsername_eq_some,
    ← getIcePassword_eq_some]
  constructor
  · intro h
    rcases h with ⟨credentials, ⟨su, hsu, sp, hsp, hsome⟩, hu, hp⟩
    cases hsome
    have hsu' : su = username := ICEUsername.mk.injEq _ _ ▸ hu
    have hsp' : sp = password := ICEPassword.mk.injEq _ _ ▸ hp
    rw [← hsu', ← hsp']
    exact ⟨hsu, hsp⟩
  · intro h
    rcases h with ⟨hsu, hsp⟩
    exact ⟨_, ⟨username, hsu, password, hsp, rfl⟩, rfl, rfl⟩

end Found

/-- The code follows the rule exactly where it does not pass over a
    password. -/
theorem followsOverride_iff (sdp : SDP) (draws : Draws) :
    FollowsOverride sdp draws ↔ ¬ PasswordPassedOver sdp := by
  constructor
  · -- A password that is passed over satisfies neither half of the rule,
    -- though the code finds the defaults.
    intro h hpassed
    rcases hpassed with ⟨⟨media, hmedia, hpassword⟩, hnone, huser, hdefault⟩
    rcases exists_first.mpr huser with ⟨username, hfirstUser⟩
    rcases exists_first.mpr hdefault with ⟨password, hfirstPassword⟩
    have hfound : ∃ credentials, getIceCredentials sdp draws = some credentials ∧
        credentials.remoteUsername = username.username ∧
        credentials.remotePassword = password.password :=
      (getIceCredentials_eq_session hnone).mpr ⟨hfirstUser, hfirstPassword⟩
    rcases (h username password).mp hfound with ⟨_, hboth⟩ | ⟨hneither, _⟩
    · exact hnone media hmedia (hboth media hmedia).1.mem
    · exact (hneither media hmedia).2 hpassword
  · intro h username password
    by_cases huser : ∃ media ∈ sdp.mediaSections, NamesUser media
    · rw [getIceCredentials_eq_media huser]
      constructor
      · intro hboth
        rcases huser with ⟨media, hmedia, hnames⟩
        exact Or.inl ⟨⟨media, hmedia, Or.inl hnames⟩, hboth⟩
      · intro hrule
        rcases hrule with ⟨_, hboth⟩ | ⟨hneither, _⟩
        · exact hboth
        · rcases huser with ⟨media, hmedia, hnames⟩
          exact absurd hnames (hneither media hmedia).1
    · have hnone : ∀ media ∈ sdp.mediaSections, ¬ NamesUser media :=
        fun media hmedia hnames => huser ⟨media, hmedia, hnames⟩
      rw [getIceCredentials_eq_session hnone]
      constructor
      · intro hsession
        -- With both defaults there, a media password would be passed over.
        refine Or.inr ⟨fun media hmedia => ⟨hnone media hmedia, fun hpassword => ?_⟩, hsession⟩
        exact h ⟨⟨media, hmedia, hpassword⟩, hnone, hsession.1.mem, hsession.2.mem⟩
      · intro hrule
        rcases hrule with ⟨⟨media, hmedia, _⟩, hboth⟩ | ⟨_, hsession⟩
        · exact absurd (hboth media hmedia).1.mem (hnone media hmedia)
        · exact hsession

/-- An offer with a password in each media section, and defaults. -/
def mediaPasswordOffer : SDP :=
  { sessionSection := [userLine ⟨"user".toList⟩, passwordLine ⟨"default".toList⟩],
    audioSection := [passwordLine ⟨"secret".toList⟩],
    videoSection := [passwordLine ⟨"secret".toList⟩] }

/-- Both media sections have a password of their own, and the default is taken
    instead. -/
theorem followsOverride_fails_on_password :
    (getIceCredentials mediaPasswordOffer fixedDraws).map
        (fun credentials => (credentials.remoteUsername, credentials.remotePassword))
      = some ("user".toList, "default".toList) ∧
      ¬ FollowsOverride mediaPasswordOffer fixedDraws := by
  refine ⟨by decide +kernel, ?_⟩
  intro h
  rcases (h ⟨"user".toList⟩ ⟨"default".toList⟩).mp ⟨_, rfl, rfl, rfl⟩ with
    ⟨_, hboth⟩ | ⟨hneither, _⟩
  · -- There is no user in the audio section.
    rcases (forall_mediaSections.mp hboth).1.1.mem with ⟨username, hmem⟩
    cases List.mem_singleton.mp hmem
  · exact (forall_mediaSections.mp hneither).1.2 ⟨_, List.mem_singleton.mpr rfl⟩

end Sdp

end SigmaMedia
