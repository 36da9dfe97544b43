import Mathlib.Data.List.Basic
import Mathlib.Logic.Function.Basic
import SigmaMedia.Base.Trace

/-!
# Threads Around a Mailbox

One thread owns a state and takes messages off a queue, oldest first. Other
threads put messages in, each with the way back to itself, and wait for the
reply before they go on. Messages without a way back come from outside.

Which thread moves next is a matter of scheduling. `step` takes the choice as
its input and leaves the world as it is when the chosen thread cannot move, so
a run over any list of choices is an interleaving and every interleaving is
such a run. Only the owner can panic, and that ends the run.

What a run did is written down in a log. Three things are read off it. The
messages taken are the messages put in, in the same order, less those still
queued (`put_eq_taken_append`). The owner went through a run of its own over
the messages taken, as if it had been alone with them (`owner_feed`). And the
log of each thread is a conversation, in which every message is followed by
its own reply (`conversations`). Together they say that the threads cannot
tell the owner from one that answers them one at a time.

## Main definitions

* `Program`: What a thread does between two messages.
* `Phase`, `World`: How far a thread has got, and the whole.
* `Event`, `Entry`: What is scheduled, and what is written down of it.
* `step`: One move.
* `Accounted`: What of a thread is in the queue.
* `Conversation`: The log of one thread.
* `Alone`: A thread that is answered at once.

## Theorems

* `put_eq_taken_append`: Nothing is lost, repeated or overtaken.
* `owner_feed`: The owner's own run.
* `serve_of_taken`: The turn of the owner behind a message that was taken.
* `accounted`: A thread that waits has its message in the queue, once.
* `conversations`: Every message is followed by its own reply.
* `Conversation.alone`, `alone_of_started`: A thread cannot tell that it is not
  alone.
* `taken_in_turn`: A message is taken once those in front of it are.
-/

namespace SigmaMedia

namespace Mailbox

open Exec Trace

/-- What a thread does between two messages. -/
structure Program (ι ρ χ τ : Type) where
  /-- The message it sends next, if any, and how it waits for the reply. -/
  asks : τ → Option (ι × τ)
  /-- How it goes on from a reply. -/
  resume : τ → ρ → χ → τ
  /-- Whether it may give up waiting. -/
  leaves : τ → Bool

/-- How far a thread has got. -/
inductive Phase (ι ρ τ : Type) where
  | running (t : τ)
  | waiting (m : ι) (t : τ)
  | replied (m : ι) (r : ρ) (t : τ)
  /-- It gave up, and its message is still queued. -/
  | left (m : ι) (t : τ)
  | gone (t : τ)

/-- The owner, the queue in front of it, and where everybody else is. -/
structure World (κ σ ι ρ τ : Type) where
  /-- The state of the owner. -/
  owner : σ
  /-- Messages that were not taken yet, with the way back, oldest first. -/
  queue : List (Option κ × ι)
  phase : κ → Option (Phase ι ρ τ)

/-- What is scheduled. -/
inductive Event (κ ι ε χ τ : Type) where
  | start (k : κ) (t : τ)
  | post (m : ι)
  | send (k : κ)
  | take (e : ε)
  | receive (k : κ) (x : χ)
  | leave (k : κ)

/-- What is written down of it. -/
inductive Entry (κ ι ρ ε χ τ : Type) where
  | started (k : κ) (t : τ)
  | posted (m : ι)
  | sent (k : κ) (m : ι)
  | taken (k : Option κ) (m : ι) (waiting : Bool) (e : ε) (r : ρ)
  | received (k : κ) (r : ρ) (x : χ)
  | left (k : κ)

variable {κ σ ι ρ ε χ τ : Type} [DecidableEq κ]

/-- Whether a reply is waited for. -/
def Phase.isWaiting : Phase ι ρ τ → Bool
  | .waiting _ _ => true
  | _ => false

/-- Whether somebody is there and waits for a reply. -/
def World.isWaiting (w : World κ σ ι ρ τ) (k : Option κ) : Bool :=
  (k.bind w.phase).any Phase.isWaiting

/-- Hand a reply to a thread. One that gave up does not get it. -/
def Phase.reply (r : ρ) : Phase ι ρ τ → Phase ι ρ τ
  | .waiting m t => .replied m r t
  | .left _ t => .gone t
  | p => p

/-- Somebody goes on to a phase. -/
def World.setPhase (w : World κ σ ι ρ τ) (k : κ) (p : Phase ι ρ τ) : World κ σ ι ρ τ :=
  { w with phase := Function.update w.phase k (some p) }

@[simp] theorem World.setPhase_owner (w : World κ σ ι ρ τ) (k : κ) (p : Phase ι ρ τ) :
    (w.setPhase k p).owner = w.owner := rfl

@[simp] theorem World.setPhase_queue (w : World κ σ ι ρ τ) (k : κ) (p : Phase ι ρ τ) :
    (w.setPhase k p).queue = w.queue := rfl

@[simp] theorem World.setPhase_phase (w : World κ σ ι ρ τ) (k j : κ) (p : Phase ι ρ τ) :
    (w.setPhase k p).phase j = if j = k then some p else w.phase j :=
  Function.update_apply ..

/-- Hand a reply to whoever the message came from. -/
def World.deliver (w : World κ σ ι ρ τ) (r : ρ) : Option κ → World κ σ ι ρ τ
  | none => w
  | some k => { w with phase := Function.update w.phase k ((w.phase k).map (Phase.reply r)) }

@[simp] theorem World.deliver_phase (w : World κ σ ι ρ τ) (r : ρ) (k : Option κ) (j : κ) :
    (w.deliver r k).phase j
      = if some j = k then (w.phase j).map (Phase.reply r) else w.phase j := by
  rcases k with _ | k
  · rw [if_neg (Option.some_ne_none j)]
    rfl
  · simp only [World.deliver, Function.update_apply, Option.some.injEq]
    by_cases h : j = k
    · rw [if_pos h, if_pos h, h]
    · rw [if_neg h, if_neg h]

/-- Before anybody moved. -/
def World.init (owner : σ) : World κ σ ι ρ τ :=
  { owner, queue := [], phase := fun _ => none }

/-- A message as the owner finds it: with what came from outside, and whether
    its reply is waited for. -/
abbrev Taken (ι ε : Type) := ι × Bool × ε

section Step

variable (serve : σ → Taken ι ε → Exec (σ × ρ)) (prog : Program ι ρ χ τ)

/-- One move. A thread that cannot move does not. -/
def step (w : World κ σ ι ρ τ) :
    Event κ ι ε χ τ → Exec (World κ σ ι ρ τ × List (Entry κ ι ρ ε χ τ))
  | .start k t =>
      -- A name is used for one thread only.
      match w.phase k with
      | none => .ok (w.setPhase k (.running t), [.started k t])
      | some _ => .ok (w, [])
  | .post m => .ok ({ w with queue := w.queue ++ [(none, m)] }, [.posted m])
  | .send k =>
      match w.phase k with
      | some (.running t) =>
          match prog.asks t with
          | some (m, t') =>
              .ok ({ w.setPhase k (.waiting m t') with queue := w.queue ++ [(some k, m)] },
                [.sent k m])
          | none => .ok (w, [])
      | _ => .ok (w, [])
  | .take e =>
      match w.queue with
      | [] => .ok (w, [])
      | (k, m) :: queue => do
          let (owner, r) ← serve w.owner (m, w.isWaiting k, e)
          return ({ w.deliver r k with owner, queue }, [.taken k m (w.isWaiting k) e r])
  | .receive k x =>
      match w.phase k with
      | some (.replied _ r t) =>
          .ok (w.setPhase k (.running (prog.resume t r x)), [.received k r x])
      | _ => .ok (w, [])
  | .leave k =>
      match w.phase k with
      | some (.waiting m t) =>
          if prog.leaves t then .ok (w.setPhase k (.left m t), [.left k]) else .ok (w, [])
      | _ => .ok (w, [])

end Step

/-- Everything a move can be. -/
inductive Moves (serve : σ → Taken ι ε → Exec (σ × ρ)) (prog : Program ι ρ χ τ)
    (w : World κ σ ι ρ τ) :
    Event κ ι ε χ τ → World κ σ ι ρ τ → List (Entry κ ι ρ ε χ τ) → Prop
  | idle {event : Event κ ι ε χ τ} : Moves serve prog w event w []
  | start {k : κ} {t : τ} : w.phase k = none →
      Moves serve prog w (.start k t) (w.setPhase k (.running t)) [.started k t]
  | post {m : ι} :
      Moves serve prog w (.post m) { w with queue := w.queue ++ [(none, m)] } [.posted m]
  | send {k : κ} {t t' : τ} {m : ι} : w.phase k = some (.running t) → prog.asks t = some (m, t') →
      Moves serve prog w (.send k)
        { w.setPhase k (.waiting m t') with queue := w.queue ++ [(some k, m)] } [.sent k m]
  | take {k : Option κ} {m : ι} {queue : List (Option κ × ι)} {e : ε} {owner : σ} {r : ρ} :
      w.queue = (k, m) :: queue → serve w.owner (m, w.isWaiting k, e) = .ok (owner, r) →
      Moves serve prog w (.take e) { w.deliver r k with owner, queue }
        [.taken k m (w.isWaiting k) e r]
  | receive {k : κ} {m : ι} {r : ρ} {t : τ} {x : χ} : w.phase k = some (.replied m r t) →
      Moves serve prog w (.receive k x) (w.setPhase k (.running (prog.resume t r x)))
        [.received k r x]
  | leave {k : κ} {m : ι} {t : τ} : w.phase k = some (.waiting m t) → prog.leaves t = true →
      Moves serve prog w (.leave k) (w.setPhase k (.left m t)) [.left k]

section Runs

variable {serve : σ → Taken ι ε → Exec (σ × ρ)} {prog : Program ι ρ χ τ}
variable {w w' : World κ σ ι ρ τ} {es : List (Entry κ ι ρ ε χ τ)}

theorem moves_of_step {event : Event κ ι ε χ τ} (h : step serve prog w event = .ok (w', es)) :
    Moves serve prog w event w' es := by
  -- Each event can do one thing, in one phase of the client; in any other it
  -- does nothing.
  cases event with
  | start k t =>
      cases hk : w.phase k with
      | none =>
          simp only [step, hk, Except.ok.injEq, Prod.mk.injEq] at h
          rcases h with ⟨rfl, rfl⟩
          exact .start hk
      | some p =>
          simp only [step, hk, Except.ok.injEq, Prod.mk.injEq] at h
          rcases h with ⟨rfl, rfl⟩
          exact .idle
  | post m =>
      simp only [step, Except.ok.injEq, Prod.mk.injEq] at h
      rcases h with ⟨rfl, rfl⟩
      exact .post
  | send k =>
      rcases hk : w.phase k with _ | ⟨t | ⟨m, t⟩ | ⟨m, r, t⟩ | ⟨m, t⟩ | t⟩
      case some.running =>
        rcases hasks : prog.asks t with _ | ⟨m, t'⟩
        · simp only [step, hk, hasks, Except.ok.injEq, Prod.mk.injEq] at h
          rcases h with ⟨rfl, rfl⟩
          exact .idle
        · simp only [step, hk, hasks, Except.ok.injEq, Prod.mk.injEq] at h
          rcases h with ⟨rfl, rfl⟩
          exact .send hk hasks
      all_goals
        simp only [step, hk, Except.ok.injEq, Prod.mk.injEq] at h
        rcases h with ⟨rfl, rfl⟩
        exact .idle
  | take e =>
      rcases hq : w.queue with _ | ⟨⟨k, m⟩, queue⟩
      · simp only [step, hq, Except.ok.injEq, Prod.mk.injEq] at h
        rcases h with ⟨rfl, rfl⟩
        exact .idle
      · simp only [step, hq, bind_eq_ok] at h
        rcases h with ⟨⟨owner, r⟩, hserve, hout⟩
        cases hout
        exact .take hq hserve
  | receive k x =>
      rcases hk : w.phase k with _ | ⟨t | ⟨m, t⟩ | ⟨m, r, t⟩ | ⟨m, t⟩ | t⟩
      case some.replied =>
        simp only [step, hk, Except.ok.injEq, Prod.mk.injEq] at h
        rcases h with ⟨rfl, rfl⟩
        exact .receive hk
      all_goals
        simp only [step, hk, Except.ok.injEq, Prod.mk.injEq] at h
        rcases h with ⟨rfl, rfl⟩
        exact .idle
  | leave k =>
      rcases hk : w.phase k with _ | ⟨t | ⟨m, t⟩ | ⟨m, r, t⟩ | ⟨m, t⟩ | t⟩
      case some.waiting =>
        rcases hleaves : prog.leaves t with _ | _
        · simp only [step, hk, hleaves, Bool.false_eq_true, if_false, Except.ok.injEq,
            Prod.mk.injEq] at h
          rcases h with ⟨rfl, rfl⟩
          exact .idle
        · simp only [step, hk, hleaves, if_true, Except.ok.injEq, Prod.mk.injEq] at h
          rcases h with ⟨rfl, rfl⟩
          exact .leave hk hleaves
      all_goals
        simp only [step, hk, Except.ok.injEq, Prod.mk.injEq] at h
        rcases h with ⟨rfl, rfl⟩
        exact .idle

/-- A thread that is not there moves only when it is started. -/
theorem Moves.phase_eq_none {event : Event κ ι ε χ τ} (h : Moves serve prog w event w' es) {k : κ}
    (hnone : w.phase k = none) (hstart : ∀ t, event ≠ .start k t) : w'.phase k = none := by
  -- Whoever else moves, moves alone.
  have hother : ∀ {j : κ} {p p' : Phase ι ρ τ}, w.phase j = some p →
      (w.setPhase j p').phase k = none := by
    intro j p p' hj
    have hne : k ≠ j := by
      intro hk
      rw [hk, hj] at hnone
      cases hnone
    rw [World.setPhase_phase, if_neg hne]
    exact hnone
  cases h with
  | idle => exact hnone
  | @start j t hj =>
      have hne : k ≠ j := fun hk => hstart t (by rw [hk])
      rw [World.setPhase_phase, if_neg hne]
      exact hnone
  | post => exact hnone
  | send hj _ => exact hother hj
  | @take j m queue e owner r _ _ =>
      change (w.deliver r j).phase k = none
      rw [World.deliver_phase, hnone, Option.map_none, ite_self]
  | receive hj => exact hother hj
  | leave hj _ => exact hother hj

/-- What every move keeps of the log and the world holds after every run. -/
theorem log_invariant (Inv : List (Entry κ ι ρ ε χ τ) → World κ σ ι ρ τ → Prop)
    (hmove : ∀ log w event w' es, Inv log w → Moves serve prog w event w' es →
      Inv (log ++ es) w')
    {events : List (Event κ ι ε χ τ)} {logs : List (List (Entry κ ι ρ ε χ τ))} (h0 : Inv [] w)
    (h : feed (step serve prog) w events = .ok (w', logs)) : Inv logs.flatten w' := by
  have hstep : ∀ past w₁ event w₂ es, Inv past.flatten w₁ →
      step serve prog w₁ event = .ok (w₂, es) → Inv (past ++ [es]).flatten w₂ := by
    intro past w₁ event w₂ es hinv hone
    rw [List.flatten_append, List.flatten_singleton]
    exact hmove past.flatten w₁ event w₂ es hinv (moves_of_step hone)
  exact feed_outputs (fun past w => Inv past.flatten w) hstep h0 h

/-- A message from outside, as it is scheduled. -/
def Event.post? : Event κ ι ε χ τ → Option ι
  | .post m => some m
  | _ => none

/-- A message from outside, as it is written down. -/
def Entry.posted? : Entry κ ι ρ ε χ τ → Option ι
  | .posted m => some m
  | _ => none

/-- Whatever is scheduled from outside gets in, and nothing else does. -/
theorem posted_of_step {event : Event κ ι ε χ τ} (h : step serve prog w event = .ok (w', es)) :
    es.filterMap Entry.posted? = event.post?.toList := by
  cases event with
  | post m =>
      cases h
      rfl
  | _ =>
      cases moves_of_step h with
      | _ => rfl

/-- A message that was put in, with the way back. -/
def Entry.put : Entry κ ι ρ ε χ τ → Option (Option κ × ι)
  | .posted m => some (none, m)
  | .sent k m => some (some k, m)
  | _ => none

/-- A message that was taken, with the way back. -/
def Entry.took : Entry κ ι ρ ε χ τ → Option (Option κ × ι)
  | .taken k m _ _ _ => some (k, m)
  | _ => none

/-- A message as the owner found it, and its reply. -/
def Entry.served : Entry κ ι ρ ε χ τ → Option (Taken ι ε × ρ)
  | .taken _ m waiting e r => some ((m, waiting, e), r)
  | _ => none

/-- Messages are taken in the order they are put in, and those that were not
    taken are in the queue. -/
theorem put_eq_taken_append {events : List (Event κ ι ε χ τ)}
    {logs : List (List (Entry κ ι ρ ε χ τ))}
    (h : feed (step serve prog) w events = .ok (w', logs)) :
    w.queue ++ logs.flatten.filterMap Entry.put
      = logs.flatten.filterMap Entry.took ++ w'.queue := by
  refine log_invariant (fun log v => w.queue ++ log.filterMap Entry.put
    = log.filterMap Entry.took ++ v.queue) ?_ (List.append_nil _) h
  intro log v _ v' es hinv hmove
  simp only [List.filterMap_append, ← List.append_assoc, hinv]
  cases hmove with
  -- The message that is taken was the first of the queue.
  | take hq _ => simp only [List.filterMap_cons, List.filterMap_nil, hq, Entry.put, Entry.took,
      List.append_nil, List.append_assoc, List.singleton_append]
  | _ => simp only [List.filterMap_cons, List.filterMap_nil, Entry.put, Entry.took,
      World.setPhase_queue, List.append_nil, List.append_assoc]

/-- A message is taken once those in front of it are. -/
theorem taken_in_turn {events : List (Event κ ι ε χ τ)}
    {logs : List (List (Entry κ ι ρ ε χ τ))}
    (h : feed (step serve prog) w events = .ok (w', logs)) {front rest : List (Option κ × ι)}
    {k : Option κ} {m : ι} (hqueue : w.queue = front ++ (k, m) :: rest)
    (hlong : front.length < (logs.flatten.filterMap Entry.took).length) :
    ∃ waiting e r, .taken k m waiting e r ∈ logs.flatten := by
  have hput := put_eq_taken_append h
  -- The messages taken begin with those that were in the queue.
  have hmem : (k, m) ∈ logs.flatten.filterMap Entry.took := by
    have hat : (logs.flatten.filterMap Entry.took ++ w'.queue)[front.length]? = some (k, m) := by
      rw [← hput, hqueue, List.append_assoc, List.getElem?_append_right (Nat.le_refl _),
        Nat.sub_self]
      rfl
    rw [List.getElem?_append_left hlong] at hat
    exact List.mem_of_getElem? hat
  rcases List.mem_filterMap.mp hmem with ⟨entry, hentry, htook⟩
  cases entry with
  | taken k' m' waiting e r =>
      cases htook
      exact ⟨waiting, e, r, hentry⟩
  | _ => cases htook

/-- The owner went through a run of its own over what it took. -/
theorem owner_feed {owner : σ} {events : List (Event κ ι ε χ τ)}
    {logs : List (List (Entry κ ι ρ ε χ τ))}
    (h : feed (step serve prog) (World.init owner) events = .ok (w', logs)) :
    feed serve owner ((logs.flatten.filterMap Entry.served).map Prod.fst)
      = .ok (w'.owner, (logs.flatten.filterMap Entry.served).map Prod.snd) := by
  refine log_invariant (fun log w => feed serve owner ((log.filterMap Entry.served).map Prod.fst)
    = .ok (w.owner, (log.filterMap Entry.served).map Prod.snd)) ?_ rfl h
  intro log w _ w' es hinv hmove
  cases hmove with
  | take _ hserve =>
      simp only [List.filterMap_append, List.map_append, List.filterMap, Entry.served, List.map]
      exact feed_append_of_ok hinv (feed_cons hserve (feed_nil serve _))
  | _ =>
      simp only [List.filterMap_append, List.filterMap_cons, List.filterMap_nil, Entry.served,
        List.append_nil]
      exact hinv

/-- A message that was taken was served in its turn, behind those taken before
    it. -/
theorem serve_of_taken {owner : σ} {events : List (Event κ ι ε χ τ)}
    {logs : List (List (Entry κ ι ρ ε χ τ))}
    (h : feed (step serve prog) (World.init owner) events = .ok (w', logs)) {k : Option κ} {m : ι}
    {waiting : Bool} {e : ε} {r : ρ} (hmem : .taken k m waiting e r ∈ logs.flatten) :
    ∃ before later owner₁ owner₂ replies replies',
      (logs.flatten.filterMap Entry.served).map Prod.fst = before ++ (m, waiting, e) :: later ∧
      feed serve owner before = .ok (owner₁, replies) ∧
      serve owner₁ (m, waiting, e) = .ok (owner₂, r) ∧
      feed serve owner₂ later = .ok (w'.owner, replies') := by
  rcases List.append_of_mem hmem with ⟨front, rest, hlog⟩
  have hrun := owner_feed h
  rw [hlog] at hrun ⊢
  simp only [List.filterMap_append, List.filterMap_cons, Entry.served, List.map_append,
    List.map_cons] at hrun ⊢
  rcases exists_feed_of_append hrun with ⟨owner₁, replies, hbefore⟩
  rcases feed_append_eq_ok hbefore hrun with ⟨replies₁, hrest, hreplies⟩
  rcases feed_cons_eq_ok.mp hrest with ⟨owner₂, r', replies₂, hserve, hlater, rfl⟩
  -- There is a reply to every message, so the replies fall in the same places.
  have hlength := feed_length hbefore
  rw [List.length_map, ← List.length_map Prod.snd] at hlength
  rcases List.append_inj hreplies hlength with ⟨_, htail⟩
  rw [(List.cons.inj htail).1]
  exact ⟨_, _, owner₁, owner₂, replies, replies₂, rfl, hbefore, hserve, hlater⟩

/-- The messages of a thread that are in the queue. -/
def World.pending (w : World κ σ ι ρ τ) (k : κ) : List ι :=
  w.queue.filterMap fun entry => if entry.1 = some k then some entry.2 else none

/-- What of a thread is in the queue. -/
def Accounted (prog : Program ι ρ χ τ) (pending : List ι) : Option (Phase ι ρ τ) → Prop
  | some (.waiting m _) => pending = [m]
  -- Whoever gave up left a message behind.
  | some (.left m t) => prog.leaves t = true ∧ pending = [m]
  | _ => pending = []

/-- A thread that waits has its message in the queue, once, and only one that
    gave up has one there besides. -/
theorem Moves.accounted {event : Event κ ι ε χ τ} (h : Moves serve prog w event w' es)
    (hinv : ∀ k, Accounted prog (w.pending k) (w.phase k)) :
    ∀ k, Accounted prog (w'.pending k) (w'.phase k) := by
  -- Everything but the queue and the phase of one thread stays.
  have hkeep : ∀ (k : κ) (p : Phase ι ρ τ), Accounted prog (w.pending k) (some p) →
      ∀ j, Accounted prog ((w.setPhase k p).pending j) ((w.setPhase k p).phase j) := by
    intro k p hp j
    have hsame : (w.setPhase k p).pending j = w.pending j := rfl
    rw [hsame, World.setPhase_phase]
    by_cases hj : j = k
    · rw [if_pos hj, hj]
      exact hp
    · rw [if_neg hj]
      exact hinv j
  cases h with
  | idle => exact hinv
  | @start k t hk =>
      apply hkeep
      have hnone := hinv k
      rw [hk] at hnone
      exact hnone
  | post =>
      intro k
      have hk := hinv k
      simp only [World.pending, List.filterMap_append, List.filterMap_cons, reduceCtorEq, if_false,
        List.filterMap_nil, List.append_nil]
      exact hk
  | @send k t t' m hk hasks =>
      intro j
      have hpend := hinv k
      rw [hk] at hpend
      simp only [World.pending, List.filterMap_append, List.filterMap_cons, List.filterMap_nil,
        World.setPhase_phase]
      by_cases hj : j = k
      · -- It had nothing in the queue before.
        rw [hj, if_pos rfl, if_pos rfl]
        have hnil : w.pending k = [] := hpend
        change w.pending k ++ [m] = [m]
        rw [hnil, List.nil_append]
      · have hne : ¬ some k = some j := by
          simpa only [Option.some.injEq] using Ne.symm hj
        rw [if_neg hj, if_neg hne]
        rw [List.append_nil]
        exact hinv j
  | @take k m queue e owner r hq _ =>
      intro j
      have hj := hinv j
      simp only [World.pending, hq, List.filterMap_cons] at hj
      by_cases hjk : k = some j
      · -- The reply goes to whoever waits, and to nobody else.
        have hsome : some j = k := hjk.symm
        rw [if_pos hjk] at hj
        simp only [World.pending, World.deliver_phase, if_pos hsome]
        rcases hp : w.phase j with _ | ⟨t | ⟨m', t⟩ | ⟨m', r', t⟩ | ⟨m', t⟩ | t⟩
        all_goals
          rw [hp] at hj
          simp only [Accounted, List.cons_ne_nil, List.cons.injEq] at hj
        · exact hj.2
        · exact hj.2.2
      · have hne : ¬ some j = k := fun h => hjk h.symm
        rw [if_neg hjk] at hj
        simp only [World.pending, World.deliver_phase, if_neg hne]
        exact hj
  | @receive k m r t x hk =>
      apply hkeep
      have hpend := hinv k
      rw [hk] at hpend
      exact hpend
  | @leave k m t hk hleaves =>
      apply hkeep
      have hpend := hinv k
      rw [hk] at hpend
      exact ⟨hleaves, hpend⟩

/-- What of a thread is in the queue, after any run. -/
theorem accounted {owner : σ} {events : List (Event κ ι ε χ τ)}
    {logs : List (List (Entry κ ι ρ ε χ τ))}
    (h : feed (step serve prog) (World.init owner) events = .ok (w', logs)) (k : κ) :
    Accounted prog (w'.pending k) (w'.phase k) := by
  refine log_invariant (fun _ w => ∀ k, Accounted prog (w.pending k) (w.phase k)) ?_ ?_ h k
  · intro _ w _ w' es hinv hmove
    exact hmove.accounted hinv
  · intro k
    exact rfl

/-- Whether an entry is about a thread. -/
def Entry.isAbout (k : κ) : Entry κ ι ρ ε χ τ → Bool
  | .started j _ => j = k
  | .posted _ => false
  | .sent j _ => j = k
  | .taken j _ _ _ _ => j = some k
  | .received j _ _ => j = k
  | .left j => j = k

/-- The log of one thread, and how far it has got with it: it asks what its
    program asks, and goes on from the reply to just that. -/
inductive Conversation (prog : Program ι ρ χ τ) (k : κ) :
    List (Entry κ ι ρ ε χ τ) → Phase ι ρ τ → Prop
  | start (t : τ) : Conversation prog k [.started k t] (.running t)
  | send {es : List (Entry κ ι ρ ε χ τ)} {t t' : τ} {m : ι} :
      Conversation prog k es (.running t) → prog.asks t = some (m, t') →
      Conversation prog k (es ++ [.sent k m]) (.waiting m t')
  | take {es : List (Entry κ ι ρ ε χ τ)} {m : ι} {t : τ} (e : ε) (r : ρ) :
      Conversation prog k es (.waiting m t) →
      Conversation prog k (es ++ [.taken (some k) m true e r]) (.replied m r t)
  | receive {es : List (Entry κ ι ρ ε χ τ)} {m : ι} {r : ρ} {t : τ} (x : χ) :
      Conversation prog k es (.replied m r t) →
      Conversation prog k (es ++ [.received k r x]) (.running (prog.resume t r x))
  | leave {es : List (Entry κ ι ρ ε χ τ)} {m : ι} {t : τ} :
      Conversation prog k es (.waiting m t) → prog.leaves t = true →
      Conversation prog k (es ++ [.left k]) (.left m t)
  -- What was left behind is taken all the same, and the reply goes nowhere.
  | drop {es : List (Entry κ ι ρ ε χ τ)} {m : ι} {t : τ} (e : ε) (r : ρ) :
      Conversation prog k es (.left m t) →
      Conversation prog k (es ++ [.taken (some k) m false e r]) (.gone t)

/-- The log of a thread that may not have been started. -/
def Converses (prog : Program ι ρ χ τ) (k : κ) (es : List (Entry κ ι ρ ε χ τ)) :
    Option (Phase ι ρ τ) → Prop
  | none => es = []
  | some p => Conversation prog k es p

theorem Moves.converses {log : List (Entry κ ι ρ ε χ τ)} {event : Event κ ι ε χ τ}
    (h : Moves serve prog w event w' es)
    (hacc : ∀ k, Accounted prog (w.pending k) (w.phase k))
    (hinv : ∀ k, Converses prog k (log.filter (Entry.isAbout k)) (w.phase k)) :
    ∀ k, Converses prog k ((log ++ es).filter (Entry.isAbout k)) (w'.phase k) := by
  -- An entry about one thread is in the log of no other.
  have hone : ∀ (k : κ) (entry : Entry κ ι ρ ε χ τ) (p : Phase ι ρ τ),
      (∀ j, entry.isAbout j = decide (j = k)) →
      Conversation prog k (log.filter (Entry.isAbout k) ++ [entry]) p → ∀ j,
      Converses prog j ((log ++ [entry]).filter (Entry.isAbout j)) ((w.setPhase k p).phase j) := by
    intro k entry p habout hconv j
    rw [List.filter_append, List.filter_singleton, habout, World.setPhase_phase]
    by_cases hj : j = k
    · rw [hj, if_pos rfl, decide_eq_true rfl, cond_true]
      exact hconv
    · rw [if_neg hj, decide_eq_false hj, cond_false, List.append_nil]
      exact hinv j
  cases h with
  | idle => simpa only [List.append_nil] using hinv
  | @start k t hk =>
      have hnil := hinv k
      rw [hk] at hnil
      have hnil : log.filter (Entry.isAbout k) = [] := hnil
      refine hone k _ _ (fun j => by simp only [Entry.isAbout, eq_comm]) ?_
      rw [hnil]
      exact .start t
  | post =>
      intro k
      simp only [List.filter_append, List.filter_singleton, Entry.isAbout, cond_false,
        List.append_nil]
      exact hinv k
  | @send k t t' m hk hasks =>
      have hconv := hinv k
      rw [hk] at hconv
      exact hone k _ _ (fun j => by simp only [Entry.isAbout, eq_comm]) (.send hconv hasks)
  | @take k m queue e owner r hq _ =>
      rcases k with _ | k
      · intro j
        simp only [List.filter_append, List.filter_singleton, Entry.isAbout, reduceCtorEq,
          decide_false, cond_false, List.append_nil]
        exact hinv j
      · have hpend := hacc k
        have hconv := hinv k
        simp only [World.pending, hq, List.filterMap_cons, if_true] at hpend
        intro j
        simp only [List.filter_append, List.filter_singleton, Entry.isAbout, Option.some.injEq,
          World.deliver_phase]
        by_cases hj : j = k
        · -- The message at the front is the one the thread is in for.
          rw [hj, if_pos rfl, decide_eq_true rfl, cond_true]
          rcases hp : w.phase k with _ | ⟨t | ⟨m', t⟩ | ⟨m', r', t⟩ | ⟨m', t⟩ | t⟩
          all_goals
            rw [hp] at hpend hconv
            simp only [Accounted, List.cons_ne_nil, List.cons.injEq] at hpend
          · have hwaits : w.isWaiting (some k) = true := by
              simp only [World.isWaiting, Option.bind_some, hp, Option.any_some, Phase.isWaiting]
            rw [hwaits, hpend.1]
            exact .take e r hconv
          · have hgone : w.isWaiting (some k) = false := by
              simp only [World.isWaiting, Option.bind_some, hp, Option.any_some, Phase.isWaiting]
            rw [hgone, hpend.2.1]
            exact .drop e r hconv
        · rw [if_neg hj, decide_eq_false (Ne.symm hj), cond_false, List.append_nil]
          exact hinv j
  | @receive k m r t x hk =>
      have hconv := hinv k
      rw [hk] at hconv
      exact hone k _ _ (fun j => by simp only [Entry.isAbout, eq_comm]) (.receive x hconv)
  | @leave k m t hk hleaves =>
      have hconv := hinv k
      rw [hk] at hconv
      exact hone k _ _ (fun j => by simp only [Entry.isAbout, eq_comm]) (.leave hconv hleaves)

/-- The log of every thread is a conversation. -/
theorem conversations {owner : σ} {events : List (Event κ ι ε χ τ)}
    {logs : List (List (Entry κ ι ρ ε χ τ))}
    (h : feed (step serve prog) (World.init owner) events = .ok (w', logs)) (k : κ) :
    Converses prog k (logs.flatten.filter (Entry.isAbout k)) (w'.phase k) := by
  refine (log_invariant (fun log w => (∀ k, Accounted prog (w.pending k) (w.phase k)) ∧
    ∀ k, Converses prog k (log.filter (Entry.isAbout k)) (w.phase k)) ?_ ?_ h).2 k
  · intro log w _ w' es hinv hmove
    exact ⟨hmove.accounted hinv.1, hmove.converses hinv.1 hinv.2⟩
  · exact ⟨fun _ => rfl, fun _ => rfl⟩

/-- A message and what became of it: what came with it when it was taken, its
    reply, and what came with the reply. -/
structure Call (ι ρ ε χ : Type) where
  message : ι
  extra : ε
  reply : ρ
  choice : χ

/-- A call, in the log. -/
def Call.entries (k : κ) (c : Call ι ρ ε χ) : List (Entry κ ι ρ ε χ τ) :=
  [.sent k c.message, .taken (some k) c.message true c.extra c.reply,
    .received k c.reply c.choice]

/-- A thread that is alone with the owner: every message is answered before
    anything else happens. -/
inductive Alone (prog : Program ι ρ χ τ) (t₀ : τ) : List (Call ι ρ ε χ) → τ → Prop
  | nil : Alone prog t₀ [] t₀
  | snoc {calls : List (Call ι ρ ε χ)} {t t' : τ} (c : Call ι ρ ε χ) :
      Alone prog t₀ calls t → prog.asks t = some (c.message, t') →
      Alone prog t₀ (calls ++ [c]) (prog.resume t' c.reply c.choice)

/-- The call a thread is in the middle of. -/
inductive Unfinished (prog : Program ι ρ χ τ) (k : κ) (t : τ) :
    List (Entry κ ι ρ ε χ τ) → Phase ι ρ τ → Prop
  | running : Unfinished prog k t [] (.running t)
  | waiting {m : ι} {t' : τ} : prog.asks t = some (m, t') →
      Unfinished prog k t [.sent k m] (.waiting m t')
  | replied {m : ι} {t' : τ} {e : ε} {r : ρ} : prog.asks t = some (m, t') →
      Unfinished prog k t [.sent k m, .taken (some k) m true e r] (.replied m r t')
  | left {m : ι} {t' : τ} : prog.asks t = some (m, t') → prog.leaves t' = true →
      Unfinished prog k t [.sent k m, .left k] (.left m t')
  | gone {m : ι} {t' : τ} {e : ε} {r : ρ} : prog.asks t = some (m, t') → prog.leaves t' = true →
      Unfinished prog k t [.sent k m, .left k, .taken (some k) m false e r] (.gone t')

omit [DecidableEq κ] in
/-- A conversation is the one the thread has when it is alone, up to the call
    it is in the middle of. -/
theorem Conversation.alone {k : κ} {es : List (Entry κ ι ρ ε χ τ)} {p : Phase ι ρ τ}
    (h : Conversation prog k es p) :
    ∃ t₀ calls t rest, Alone prog t₀ calls t ∧ Unfinished prog k t rest p ∧
      es = .started k t₀ :: calls.flatMap (Call.entries k) ++ rest := by
  induction h with
  | start t => exact ⟨t, [], t, [], .nil, .running, rfl⟩
  | send _ hasks ih =>
      rcases ih with ⟨t₀, calls, t, rest, halone, hrest, rfl⟩
      cases hrest with
      | running => exact ⟨t₀, calls, _, _, halone, .waiting hasks, by rw [List.append_nil]⟩
  | take e r _ ih =>
      rcases ih with ⟨t₀, calls, t, rest, halone, hrest, rfl⟩
      cases hrest with
      | waiting hasks =>
          exact ⟨t₀, calls, t, _, halone, .replied hasks, by
            rw [List.append_assoc, List.singleton_append]⟩
  | @receive _ m r _ x _ ih =>
      rcases ih with ⟨t₀, calls, t, rest, halone, hrest, rfl⟩
      cases hrest with
      | @replied _ _ e _ hasks =>
          -- With the reply received the call is complete.
          refine ⟨t₀, calls ++ [⟨m, e, r, x⟩], _, [], .snoc ⟨m, e, r, x⟩ halone hasks, .running, ?_⟩
          rw [List.flatMap_append, List.append_nil, List.append_assoc]
          rfl
  | leave _ hleaves ih =>
      rcases ih with ⟨t₀, calls, t, rest, halone, hrest, rfl⟩
      cases hrest with
      | waiting hasks =>
          exact ⟨t₀, calls, t, _, halone, .left hasks hleaves, by
            rw [List.append_assoc, List.singleton_append]⟩
  | drop e r _ ih =>
      rcases ih with ⟨t₀, calls, t, rest, halone, hrest, rfl⟩
      cases hrest with
      | left hasks hleaves =>
          exact ⟨t₀, calls, t, _, halone, .gone hasks hleaves, List.append_assoc _ _ _⟩

/-- A thread that is in the log as it was started has been alone with the owner
    from there, up to the call it is in the middle of. -/
theorem alone_of_started {owner : σ} {events : List (Event κ ι ε χ τ)}
    {logs : List (List (Entry κ ι ρ ε χ τ))}
    (h : feed (step serve prog) (World.init owner) events = .ok (w', logs)) {k : κ} {t₀ : τ}
    (hstarted : .started k t₀ ∈ logs.flatten) :
    ∃ p calls t rest, w'.phase k = some p ∧ Alone prog t₀ calls t ∧ Unfinished prog k t rest p ∧
      logs.flatten.filter (Entry.isAbout k)
        = .started k t₀ :: calls.flatMap (Call.entries k) ++ rest := by
  have hmem : .started k t₀ ∈ logs.flatten.filter (Entry.isAbout k) :=
    List.mem_filter.mpr ⟨hstarted, decide_eq_true rfl⟩
  have hconv := conversations h k
  rcases hp : w'.phase k with _ | p
  · have hnil : logs.flatten.filter (Entry.isAbout k) = [] := by
      rw [hp] at hconv
      exact hconv
    rw [hnil] at hmem
    cases hmem
  rw [hp] at hconv
  rcases Conversation.alone hconv with ⟨t₁, calls, t, rest, halone, hrest, hlog⟩
  -- It is started once, and what comes behind that is no start.
  have hsame : t₀ = t₁ := by
    rw [hlog, List.cons_append, List.mem_cons, List.mem_append, List.mem_flatMap] at hmem
    rcases hmem with heq | ⟨c, _, hin⟩ | hin
    · cases heq
      rfl
    · simp only [Call.entries, List.mem_cons, List.not_mem_nil, reduceCtorEq, or_false] at hin
    · cases hrest with
      | _ => simp only [List.mem_cons, List.not_mem_nil, reduceCtorEq, or_false] at hin
  rw [hsame]
  exact ⟨p, calls, t, rest, rfl, halone, hrest, hlog⟩

end Runs

end Mailbox

end SigmaMedia
