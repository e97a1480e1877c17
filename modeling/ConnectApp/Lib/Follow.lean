import ConnectApp.Lib.Transition

/-!
# Following a source over an ordered channel

A source starts, changes and stops. A follower learns of it over a channel that keeps the order of
its messages: that the source is up or down, every change, and, on request, a listing of all the
source has. The request travels on its own and is answered whenever the source gets to it, or with
an error, or it is given up. The follower asks when it hears that the source is up, unless a request
of its own is still open.

`Tracks` says what the handlers of a follower must do with one message. From this follow

- `Reach.follows`: in every state the follower knows a part of what the source had at one earlier
  moment of the run, and the messages still on the channel lead from there to the source as it is
- `Reach.exact`: if every request that finds the source up gets its listing (`Answered`), then the
  follower knows all the source has when nothing is under way; also after restarts of the source, in
  whatever order listings, changes and restarts meet
-/

namespace Follow

open Transition

variable {S U R C : Type}

/-- `S` are the states of a source, `U` its changes and `R` the listings of its state. -/
structure Source (S U R : Type) where
  step : S → U → S → Prop
  lists : S → R → Prop

/-- What is sent to the follower. -/
inductive Message (U R : Type)
  | up
  | down
  | update (u : U)
  | reply (r : R)
  | error

/-- Whether the message answers a request. -/
def Message.isAnswer : Message U R → Bool
  | reply _ | error => true
  | up | down | update _ => false

/-- What a follower does with each message. `calling` tells whether a request of its own is open. -/
structure Handlers (U R C : Type) where
  up : C → C
  down : C → C
  update : U → C → C
  reply : R → C → C
  error : C → C
  calling : C → Bool

namespace Handlers

/-- What the follower does with a message. -/
def handle (h : Handlers U R C) : Message U R → C → C
  | .up => h.up
  | .down => h.down
  | .update u => h.update u
  | .reply r => h.reply r
  | .error => h.error

/-- Hearing that the source is up makes the follower send a request, if none is open. -/
def sends (h : Handlers U R C) : Message U R → C → Bool
  | .up, c => !h.calling c
  | _, _ => false

/-- One message after the other. -/
def replay (h : Handlers U R C) (ms : List (Message U R)) (c : C) : C :=
  ms.foldl (fun c m => h.handle m c) c

end Handlers

/-- `part c s`: all that `c` knows is so in `s`; `exact c s`: and it knows all of `s`; `blank c`: it
knows nothing. -/
structure Tracks (src : Source S U R) (h : Handlers U R C) where
  part : C → S → Prop
  exact : C → S → Prop
  blank : C → Prop
  part_of_exact {c s} : exact c s → part c s
  part_of_blank {c s} : blank c → part c s
  blank_up {c} : blank c → blank (h.up c)
  part_up {c s} : part c s → part (h.up c) s
  blank_error {c} : blank c → blank (h.error c)
  part_error {c s} : part c s → part (h.error c) s
  part_update {c s u s'} : part c s → src.step s u s' → part (h.update u c) s'
  exact_update {c s u s'} : exact c s → src.step s u s' → exact (h.update u c) s'
  exact_reply {c s r} : part c s → src.lists s r → exact (h.reply r c) s
  blank_down {c s} : part c s → blank (h.down c)
  calling_up {c} : h.calling (h.up c) = true
  calling_down {c} : h.calling (h.down c) = h.calling c
  calling_update {u c} : h.calling (h.update u c) = h.calling c
  calling_reply {r c} : h.calling (h.reply r c) = false
  calling_error {c} : h.calling (h.error c) = false

/-! ## The system -/

/-- `history`: the states that the source has had in the run so far. `call`: a request is on its way
to the source. `asked`: the follower has asked whether the source is there, and this has not been
answered. -/
structure Config (S U R C : Type) where
  source : Option S
  history : List (Option S)
  channel : List (Message U R)
  call : Bool
  asked : Bool
  follower : C

/-- The kinds of steps. -/
inductive Move
  | start
  | stop
  | change
  | answer
  | refuse
  | timeout
  | owner
  | deliver

variable (src : Source S U R) (h : Handlers U R C)

/-- A request that finds no source is refused, or waits for the next one. An error can also be the
answer of a source; and the follower can give up waiting for an answer, which is dropped then if it
still comes. -/
inductive Step : Config S U R C → Move → Config S U R C → Prop
  | start {c : Config S U R C} (s : S) : c.source = none →
      Step c .start { c with
        source := some s
        history := some s :: c.history
        channel := c.channel ++ [.up] }
  | stop {c : Config S U R C} {s : S} : c.source = some s →
      Step c .stop { c with
        source := none
        history := none :: c.history
        channel := c.channel ++ [.down] }
  | change {c : Config S U R C} {s s' : S} {u : U} : c.source = some s → src.step s u s' →
      Step c .change { c with
        source := some s'
        history := some s' :: c.history
        channel := c.channel ++ [.update u] }
  | answer {c : Config S U R C} {s : S} {r : R} : c.source = some s → c.call = true →
      src.lists s r →
      Step c .answer { c with call := false, channel := c.channel ++ [.reply r] }
  | refuse {c : Config S U R C} : c.call = true →
      Step c .refuse { c with call := false, channel := c.channel ++ [.error] }
  | timeout {c : Config S U R C} {q q' : List (Message U R)} : h.calling c.follower = true →
      c.channel.filter (fun m => !m.isAnswer) = q ++ q' →
      Step c .timeout { c with call := false, channel := q ++ .error :: q' }
  | owner {c : Config S U R C} : c.asked = true →
      Step c .owner { c with
        asked := false
        channel := c.channel ++ if c.source.isSome then [.up] else [] }
  | deliver {c : Config S U R C} {m : Message U R} {rest : List (Message U R)} :
      c.channel = m :: rest →
      Step c .deliver { c with
        channel := rest
        call := c.call || h.sends m c.follower
        follower := h.handle m c.follower }

/-- The follower begins with nothing and asks whether the source is there. -/
def Start (blank : C → Prop) (c : Config S U R C) : Prop :=
  c.history = [c.source] ∧ c.channel = [] ∧ c.call = false ∧ c.asked = true ∧ blank c.follower ∧
    h.calling c.follower = false

/-- The source, the channel and a follower. -/
def system (blank : C → Prop) : System (Config S U R C) Move where
  init := Start h blank
  step := Step src h

/-- Every request that finds the source up gets its listing: it is refused only when the source is
down, and never given up. -/
def Answered (c : Config S U R C) : Move → Prop
  | .refuse => c.source = none
  | .timeout => False
  | _ => True

/-! ## The channel leads from the follower to the source -/

variable {src} {h}

/-- The messages tell how the source got from one state to another, by states it has had. -/
inductive Trail (src : Source S U R) (seen : List (Option S)) :
    Option S → List (Message U R) → Option S → Prop
  | nil {x : Option S} : x ∈ seen → Trail src seen x [] x
  | started {s : S} {q : List (Message U R)} {x : Option S} : none ∈ seen →
      Trail src seen (some s) q x → Trail src seen none (.up :: q) x
  | up {s : S} {q : List (Message U R)} {x : Option S} :
      Trail src seen (some s) q x → Trail src seen (some s) (.up :: q) x
  | down {s : S} {q : List (Message U R)} {x : Option S} : some s ∈ seen →
      Trail src seen none q x → Trail src seen (some s) (.down :: q) x
  | update {s s' : S} {u : U} {q : List (Message U R)} {x : Option S} : some s ∈ seen →
      src.step s u s' → Trail src seen (some s') q x → Trail src seen (some s) (.update u :: q) x
  | reply {s : S} {r : R} {q : List (Message U R)} {x : Option S} : src.lists s r →
      Trail src seen (some s) q x → Trail src seen (some s) (.reply r :: q) x
  | error {y : Option S} {q : List (Message U R)} {x : Option S} :
      Trail src seen y q x → Trail src seen y (.error :: q) x

namespace Trail

variable {seen : List (Option S)} {x y : Option S} {q : List (Message U R)}

/-- It begins and ends in states that the source has had. -/
theorem mem (h : Trail src seen x q y) : x ∈ seen ∧ y ∈ seen := by
  induction h with
  | nil hx => exact ⟨hx, hx⟩
  | started hx _ ih => exact ⟨hx, ih.2⟩
  | up _ ih => exact ih
  | down hx _ ih => exact ⟨hx, ih.2⟩
  | update hx _ _ ih => exact ⟨hx, ih.2⟩
  | reply _ _ ih => exact ih
  | error _ ih => exact ih

/-- The source may have had more states. -/
theorem cons (h : Trail src seen x q y) (z : Option S) : Trail src (z :: seen) x q y := by
  induction h with
  | nil hx => exact .nil (List.mem_cons_of_mem z hx)
  | started hx _ ih => exact .started (List.mem_cons_of_mem z hx) ih
  | up _ ih => exact .up ih
  | down hx _ ih => exact .down (List.mem_cons_of_mem z hx) ih
  | update hx hstep _ ih => exact .update (List.mem_cons_of_mem z hx) hstep ih
  | reply hlists _ ih => exact .reply hlists ih
  | error _ ih => exact .error ih

theorem append {z : Option S} {q' : List (Message U R)} (h : Trail src seen x q y)
    (h' : Trail src seen y q' z) : Trail src seen x (q ++ q') z := by
  induction h with
  | nil _ => exact h'
  | started hx _ ih => exact .started hx (ih h')
  | up _ ih => exact .up (ih h')
  | down hx _ ih => exact .down hx (ih h')
  | update hx hstep _ ih => exact .update hx hstep (ih h')
  | reply hlists _ ih => exact .reply hlists (ih h')
  | error _ ih => exact .error (ih h')

/-- An error can come at any place. -/
theorem insert_error {q' : List (Message U R)} (h : Trail src seen x (q ++ q') y) :
    Trail src seen x (q ++ .error :: q') y := by
  induction q generalizing x with
  | nil => exact .error h
  | cons m q ih =>
    cases h with
    | started hx hq => exact .started hx (ih hq)
    | up hq => exact .up (ih hq)
    | down hx hq => exact .down hx (ih hq)
    | update hx hstep hq => exact .update hx hstep (ih hq)
    | reply hlists hq => exact .reply hlists (ih hq)
    | error hq => exact .error (ih hq)

/-- Answers do not tell of any change. -/
theorem filter (h : Trail src seen x q y) :
    Trail src seen x (q.filter fun m => !m.isAnswer) y := by
  induction h with
  | nil hx => exact .nil hx
  | started hx _ ih => exact .started hx ih
  | up _ ih => exact .up ih
  | down hx _ ih => exact .down hx ih
  | update hx hstep _ ih => exact .update hx hstep ih
  | reply _ _ ih => exact ih
  | error _ ih => exact ih

end Trail

namespace Tracks

variable (t : Tracks src h)

/-- What the follower knows of a source that may be down. -/
def Knows (c : C) : Option S → Prop
  | none => t.blank c
  | some s => t.part c s

/-- One message, from the state in which the source sent it. -/
theorem knows_cons {seen : List (Option S)} {m : Message U R} {q : List (Message U R)}
    {x y : Option S} {c : C} (hc : t.Knows c x) (htrail : Trail src seen x (m :: q) y) :
    ∃ x', t.Knows (h.handle m c) x' ∧ Trail src seen x' q y := by
  cases htrail with
  | @started s _ _ _ hq => exact ⟨some s, t.part_of_blank (t.blank_up hc), hq⟩
  | @up s _ _ hq => exact ⟨some s, t.part_up hc, hq⟩
  | down _ hq => exact ⟨none, t.blank_down hc, hq⟩
  | @update _ s' _ _ _ _ hstep hq => exact ⟨some s', t.part_update hc hstep, hq⟩
  | @reply s _ _ _ hlists hq => exact ⟨some s, t.part_of_exact (t.exact_reply hc hlists), hq⟩
  | error hq =>
    cases x with
    | none => exact ⟨none, t.blank_error hc, hq⟩
    | some s => exact ⟨some s, t.part_error hc, hq⟩

/-- The follower once all that is on the channel has reached it. -/
theorem knows_replay {seen : List (Option S)} {q : List (Message U R)} {x y : Option S} {c : C}
    (hc : t.Knows c x) (htrail : Trail src seen x q y) : t.Knows (h.replay q c) y := by
  induction q generalizing c x with
  | nil =>
    cases htrail
    exact hc
  | cons m q ih =>
    obtain ⟨x', hc', hq⟩ := t.knows_cons hc htrail
    exact ih hc' hq

/-- Only an answer closes a request. -/
theorem calling_handle (t : Tracks src h) {m : Message U R} (hm : m ≠ .up) (c : C) :
    h.sends m c = false ∧ h.calling (h.handle m c) = (!m.isAnswer && h.calling c) := by
  cases m with
  | up => exact absurd rfl hm
  | down => exact ⟨rfl, t.calling_down⟩
  | update u => exact ⟨rfl, t.calling_update⟩
  | reply r => exact ⟨rfl, t.calling_reply⟩
  | error => exact ⟨rfl, t.calling_error⟩

end Tracks

/-! ## Open requests -/

/-- An open request is on its way, or its answer is on the channel. -/
def Accounted (h : Handlers U R C) (c : Config S U R C) : Prop :=
  c.call.toNat + c.channel.countP Message.isAnswer = (h.calling c.follower).toNat

/-- The messages lead from what the follower knows to the source. -/
structure Invariant (t : Tracks src h) (c : Config S U R C) : Prop where
  trail : ∃ x, t.Knows c.follower x ∧ Trail src c.history x c.channel c.source
  accounted : Accounted h c

/-- When the channel is empty the follower will know all of the source, or a listing is still to
come. -/
def Complete (t : Tracks src h) (c : Config S U R C) : Prop :=
  ∀ s, c.source = some s → t.exact (h.replay c.channel c.follower) s ∨
    h.calling (h.replay c.channel c.follower) = true ∨ c.asked = true

namespace Invariant

variable {t : Tracks src h} {c d : Config S U R C}

/-- The source once the follower has caught up with it. -/
theorem knows (hc : Invariant t c) : t.Knows (h.replay c.channel c.follower) c.source := by
  obtain ⟨x, hx, htrail⟩ := hc.trail
  exact t.knows_replay hx htrail

/-- The source is in a state it has had. -/
theorem source_mem (hc : Invariant t c) : c.source ∈ c.history := by
  obtain ⟨x, -, htrail⟩ := hc.trail
  exact htrail.mem.2

theorem replay_snoc (m : Message U R) :
    h.replay (c.channel ++ [m]) c.follower = h.handle m (h.replay c.channel c.follower) := by
  rw [Handlers.replay, List.foldl_append]
  rfl

/-- A message that tells of no change. -/
theorem trail_snoc (hc : Invariant t c) {m : Message U R}
    (hm : Trail src c.history c.source [m] c.source) :
    ∃ x, t.Knows c.follower x ∧ Trail src c.history x (c.channel ++ [m]) c.source := by
  obtain ⟨x, hx, htrail⟩ := hc.trail
  exact ⟨x, hx, htrail.append hm⟩

/-- A message that tells of a change of the source. -/
theorem trail_change (hc : Invariant t c) {m : Message U R} {y : Option S}
    (hm : c.source ∈ y :: c.history → Trail src (y :: c.history) c.source [m] y) :
    ∃ x, t.Knows c.follower x ∧ Trail src (y :: c.history) x (c.channel ++ [m]) y := by
  obtain ⟨x, hx, htrail⟩ := hc.trail
  exact ⟨x, hx, (htrail.cons y).append (hm (List.mem_cons_of_mem y hc.source_mem))⟩

/-- A message that answers nothing. -/
theorem accounted_snoc (hc : Invariant t c) {m : Message U R} (hm : m.isAnswer = false) :
    c.call.toNat + (c.channel ++ [m]).countP Message.isAnswer =
      (h.calling c.follower).toNat := by
  rw [List.countP_append, List.countP_singleton, if_neg (ne_true_of_eq_false hm)]
  exact hc.accounted

/-- The answer to the request that is on its way. -/
theorem accounted_answer (hc : Invariant t c) (hcall : c.call = true) {m : Message U R}
    (hm : m.isAnswer = true) :
    false.toNat + (c.channel ++ [m]).countP Message.isAnswer =
      (h.calling c.follower).toNat := by
  rw [List.countP_append, List.countP_singleton, if_pos hm, ← hc.accounted, hcall]
  exact (Nat.zero_add _).trans (Nat.add_comm _ _)

/-- A request that is given up has an error for its only answer. -/
theorem accounted_timeout {q q' : List (Message U R)}
    (hq : c.channel.filter (fun m => !m.isAnswer) = q ++ q') :
    false.toNat + (q ++ .error :: q').countP Message.isAnswer = true.toNat := by
  have hnone : (q ++ q').countP Message.isAnswer = 0 := by
    rw [← hq, List.countP_eq_zero]
    intro m hm
    simpa using (List.mem_filter.mp hm).2
  rw [List.countP_append] at hnone
  rw [List.countP_append, List.countP_cons, ← Nat.add_assoc (q.countP _), hnone]
  rfl

/-- The next message arrives. -/
theorem deliver (hc : Invariant t c) {m : Message U R} {rest : List (Message U R)}
    (hm : c.channel = m :: rest) :
    Invariant t { c with
      channel := rest
      call := c.call || h.sends m c.follower
      follower := h.handle m c.follower } := by
  have hacc := hc.accounted
  rw [Accounted, hm, List.countP_cons] at hacc
  constructor
  · obtain ⟨x, hx, htrail⟩ := hc.trail
    exact t.knows_cons hx (hm ▸ htrail)
  · by_cases hup : m = .up
    · -- the request goes out unless the follower still has one open
      subst hup
      show (c.call || !h.calling c.follower).toNat + _ = (h.calling (h.up c.follower)).toNat
      rw [t.calling_up]
      simp only [Message.isAnswer, Bool.false_eq_true, if_false] at hacc
      generalize c.call = call, h.calling c.follower = calling at hacc
      cases call <;> cases calling <;> simp at hacc ⊢ <;> omega
    · obtain ⟨hsends, hcalling⟩ := t.calling_handle hup c.follower
      rw [Accounted, hsends, hcalling, Bool.or_false]
      cases hanswer : m.isAnswer with
      | false =>
        rw [hanswer] at hacc
        exact hacc
      | true =>
        have hle := Bool.toNat_le (h.calling c.follower)
        simp only [hanswer, if_true] at hacc
        simp only [Bool.not_true, Bool.false_and, Bool.toNat_false]
        omega

/-- One step. -/
theorem step (hc : Invariant t c) {move : Move} (hstep : Step src h c move d) :
    Invariant t d := by
  cases hstep with
  | start s hnone =>
    exact ⟨hc.trail_change fun hx => hnone ▸ .started (hnone ▸ hx) (.nil List.mem_cons_self),
      hc.accounted_snoc rfl⟩
  | @stop s hsome =>
    exact ⟨hc.trail_change fun hx => hsome ▸ .down (hsome ▸ hx) (.nil List.mem_cons_self),
      hc.accounted_snoc rfl⟩
  | @change s s' u hsome hu =>
    exact ⟨hc.trail_change fun hx => hsome ▸ .update (hsome ▸ hx) hu (.nil List.mem_cons_self),
      hc.accounted_snoc rfl⟩
  | @answer s r hsome hcall hlists =>
    have hmem := hc.source_mem
    refine ⟨hc.trail_snoc ?_, hc.accounted_answer hcall rfl⟩
    rw [hsome] at hmem ⊢
    exact .reply hlists (.nil hmem)
  | refuse hcall =>
    exact ⟨hc.trail_snoc (.error (.nil hc.source_mem)), hc.accounted_answer hcall rfl⟩
  | timeout hcalling hq =>
    obtain ⟨x, hx, htrail⟩ := hc.trail
    refine ⟨⟨x, hx, Trail.insert_error (hq ▸ htrail.filter)⟩, ?_⟩
    rw [Accounted, hcalling]
    exact accounted_timeout hq
  | owner hasked =>
    by_cases hsome : c.source.isSome = true
    · rw [if_pos hsome]
      obtain ⟨s, hs⟩ := Option.isSome_iff_exists.mp hsome
      have hmem := hc.source_mem
      refine ⟨hc.trail_snoc ?_, hc.accounted_snoc rfl⟩
      rw [hs] at hmem ⊢
      exact .up (.nil hmem)
    · rw [if_neg hsome, List.append_nil]
      exact ⟨hc.trail, hc.accounted⟩
  | deliver hm => exact hc.deliver hm

/-- One step in which a request that finds the source is not refused or given up. -/
theorem complete_step (hc : Invariant t c) (hcomplete : Complete t c) {move : Move}
    (hok : Answered c move) (hstep : Step src h c move d) : Complete t d := by
  intro s₁ hs₁
  cases hstep with
  | start s hnone =>
    refine .inr (.inl ?_)
    rw [replay_snoc]
    exact t.calling_up
  | stop hsome => cases hs₁
  | @change s s' u hsome hu =>
    obtain rfl : s' = s₁ := Option.some.inj hs₁
    rw [replay_snoc]
    rcases hcomplete s hsome with hexact | hcalling | hasked
    · exact .inl (t.exact_update hexact hu)
    · exact .inr (.inl (t.calling_update.trans hcalling))
    · exact .inr (.inr hasked)
  | @answer s r hsome hcall hlists =>
    -- the listing meets a follower that knows a part of the source
    obtain rfl : s = s₁ := Option.some.inj (hsome.symm.trans hs₁)
    have hpart := hc.knows
    rw [hsome] at hpart
    rw [replay_snoc]
    exact .inl (t.exact_reply hpart hlists)
  | refuse hcall =>
    have hnone : c.source = none := hok
    cases hnone.symm.trans hs₁
  | timeout => exact absurd hok id
  | owner hasked =>
    have hsome : c.source.isSome = true := Option.isSome_iff_exists.mpr ⟨s₁, hs₁⟩
    refine .inr (.inl ?_)
    rw [if_pos hsome, replay_snoc]
    exact t.calling_up
  | deliver hm =>
    have hexact := hcomplete s₁ hs₁
    rwa [hm] at hexact

theorem start (hc : Start h t.blank c) : Invariant t c := by
  obtain ⟨hhistory, hchannel, hcall, -, hblank, hcalling⟩ := hc
  refine ⟨⟨c.source, ?_, ?_⟩, ?_⟩
  · cases c.source with
    | none => exact hblank
    | some s => exact t.part_of_blank hblank
  · rw [hchannel, hhistory]
    exact .nil (List.mem_singleton_self _)
  · rw [Accounted, hchannel, hcall, hcalling]
    rfl

end Invariant

/-- Every run keeps the invariant. -/
theorem Reach.keeps (t : Tracks src h) {ok : Config S U R C → Move → Prop} {c : Config S U R C}
    (hc : Reach (system src h t.blank) ok c) : Invariant t c :=
  Reach.invariant (P := Invariant t) (fun _ => Invariant.start)
    (fun _ _ _ hinv _ hstep => hinv.step hstep) hc

/-- **The follower is behind, never wrong.** It knows a part of what the source had at one earlier
moment. -/
theorem Reach.follows (t : Tracks src h) {c : Config S U R C}
    (hc : Reach (system src h t.blank) (fun _ _ => True) c) :
    ∃ x, t.Knows c.follower x ∧ Trail src c.history x c.channel c.source :=
  (Reach.keeps t hc).trail

/-- **At rest the follower knows the source**, if its requests were answered. -/
theorem Reach.exact (t : Tracks src h) {c : Config S U R C}
    (hc : Reach (system src h t.blank) Answered c) (hchannel : c.channel = [])
    (hcall : c.call = false) (hasked : c.asked = false) :
    (∀ s, c.source = some s → t.exact c.follower s) ∧ (c.source = none → t.blank c.follower) := by
  obtain ⟨hinv, hcomplete⟩ : Invariant t c ∧ Complete t c := by
    refine Reach.invariant (P := fun c => Invariant t c ∧ Complete t c) ?_ ?_ hc
    · intro c hstart
      have hopen : c.asked = true := hstart.2.2.2.1
      exact ⟨.start hstart, fun _ _ => .inr (.inr hopen)⟩
    · rintro c move d ⟨hinv, hcomplete⟩ hok hstep
      exact ⟨hinv.step hstep, hinv.complete_step hcomplete hok hstep⟩
  have hknows := hinv.knows
  have hacc := hinv.accounted
  rw [hchannel] at hknows
  rw [Accounted, hchannel, hcall] at hacc
  constructor
  · intro s hs
    have hexact := hcomplete s hs
    rw [hchannel] at hexact
    rcases hexact with hexact | hcalling | hasked'
    · exact hexact
    · -- an open request would be on its way or answered on the channel
      have hcalling' : h.calling c.follower = true := hcalling
      rw [hcalling'] at hacc
      cases hacc
    · cases hasked.symm.trans hasked'
  · intro hnone
    rw [hnone] at hknows
    exact hknows

end Follow
