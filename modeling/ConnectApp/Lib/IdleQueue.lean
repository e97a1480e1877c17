import Mathlib
import ConnectApp.Lib.Transition

/-!
# Handlers queued for a main loop

A call stores its arguments in memory that all calls share and appends a request to a queue.
The main loop dispatches the oldest request: its handler reads the arguments from the memory
as it is then, and the request is taken off the queue unless the handler asks to be run
again.

- `Loop.dispatched_holds`: when no call overwrites what a waiting request still needs, every
  handler finds its own arguments.
- `Loop.once_iff`: every request is dispatched once, in the order of the calls, exactly when
  no handler asks to be run again.
-/

namespace IdleQueue

open Transition

/-- Calls `κ` post requests `ρ` that store into a memory `μ`; a handler makes an observation
`α` and runs in an environment `ε`. -/
structure Loop (κ ρ μ ε α : Type) where
  request : κ → Option ρ
  store : ρ → μ → μ
  observe : ρ → ε → μ → α
  again : ρ → ε → μ → Bool

/-- `posted` are all requests so far and `dispatched` the runs of handlers so far, both
oldest first. -/
structure State (ρ μ α : Type) where
  mem : μ
  queue : List ρ
  posted : List ρ
  dispatched : List (ρ × α)

/-- A call from outside, or a turn of the loop. -/
inductive Move (κ ε : Type)
  | call (c : κ)
  | dispatch (env : ε)

variable {κ ρ μ ε α : Type}

namespace Loop

/-- One move. `none` if the queue is empty and there is nothing to dispatch. -/
def next (L : Loop κ ρ μ ε α) (s : State ρ μ α) : Move κ ε → Option (State ρ μ α)
  | .call c =>
    match L.request c with
    | none => some s
    | some r => some { s with
        mem := L.store r s.mem, queue := s.queue ++ [r], posted := s.posted ++ [r] }
  | .dispatch env =>
    match s.queue with
    | [] => none
    | r :: rest => some { s with
        queue := if L.again r env s.mem then r :: rest else rest
        dispatched := s.dispatched ++ [(r, L.observe r env s.mem)] }

/-- The runs from an empty queue. -/
def system (L : Loop κ ρ μ ε α) (m : μ) : System (State ρ μ α) (Move κ ε) where
  init := fun s => s = ⟨m, [], [], []⟩
  step := fun s l t => L.next s l = some t

/-- What one step does. -/
theorem next_cases {L : Loop κ ρ μ ε α} {s t : State ρ μ α} {l : Move κ ε}
    (h : L.next s l = some t) :
    (∃ c, l = .call c ∧ L.request c = none ∧ t = s) ∨
    (∃ c r, l = .call c ∧ L.request c = some r ∧
      t = { s with mem := L.store r s.mem, queue := s.queue ++ [r], posted := s.posted ++ [r] }) ∨
    (∃ env r rest, l = .dispatch env ∧ s.queue = r :: rest ∧
      t = { s with
        queue := if L.again r env s.mem then r :: rest else rest
        dispatched := s.dispatched ++ [(r, L.observe r env s.mem)] }) := by
  cases l with
  | call c =>
    rw [next] at h
    cases hr : L.request c with
    | none =>
      rw [hr] at h
      exact .inl ⟨c, rfl, hr, (Option.some.inj h).symm⟩
    | some r =>
      rw [hr] at h
      exact .inr (.inl ⟨c, r, rfl, hr, (Option.some.inj h).symm⟩)
  | dispatch env =>
    rw [next] at h
    cases hq : s.queue with
    | nil =>
      rw [hq] at h
      cases h
    | cons r rest =>
      rw [hq] at h
      exact .inr (.inr ⟨env, r, rest, rfl, rfl, (Option.some.inj h).symm⟩)

/-! ## Own arguments -/

/-- Rules for the memory. `holds r m` says that `m` has the arguments of `r`, `sound` that
nothing in it is damaged. A request that `fits` stores its arguments; they survive the
requests it is `compatible` with. -/
structure Protects (L : Loop κ ρ μ ε α) (sound : μ → Prop) (holds : ρ → μ → Prop)
    (fits : ρ → Prop) (compatible : ρ → ρ → Prop) : Prop where
  store_sound : ∀ r m, fits r → sound m → sound (L.store r m)
  store_holds : ∀ r m, fits r → sound m → holds r (L.store r m)
  store_keeps : ∀ p r m, fits r → compatible p r → holds p m → holds p (L.store r m)

/-- The calls post requests that fit and that the waiting ones are compatible with. -/
def Careful (L : Loop κ ρ μ ε α) (fits : ρ → Prop) (compatible : ρ → ρ → Prop)
    (s : State ρ μ α) : Move κ ε → Prop
  | .call c => ∀ r ∈ L.request c, fits r ∧ ∀ p ∈ s.queue, compatible p r
  | .dispatch _ => True

variable {L : Loop κ ρ μ ε α} {sound : μ → Prop} {holds : ρ → μ → Prop} {fits : ρ → Prop}
  {compatible : ρ → ρ → Prop}

/-- The arguments of the waiting requests are in memory, and the handlers run so far have
seen theirs. -/
structure Intact (L : Loop κ ρ μ ε α) (sound : μ → Prop) (holds : ρ → μ → Prop)
    (s : State ρ μ α) : Prop where
  mem : sound s.mem
  waiting : ∀ p ∈ s.queue, holds p s.mem
  seen : ∀ x ∈ s.dispatched, ∃ env m, holds x.1 m ∧ x.2 = L.observe x.1 env m

theorem Intact.next {s t : State ρ μ α} {l : Move κ ε}
    (hprotects : L.Protects sound holds fits compatible) (h : L.Intact sound holds s)
    (hcareful : L.Careful fits compatible s l) (hnext : L.next s l = some t) :
    L.Intact sound holds t := by
  obtain ⟨c, -, -, rfl⟩ | ⟨c, r, rfl, hr, rfl⟩ | ⟨env, r, rest, rfl, hq, rfl⟩ := next_cases hnext
  · exact h
  · obtain ⟨hfits, hcompatible⟩ := hcareful r hr
    refine ⟨hprotects.store_sound r s.mem hfits h.mem, fun p hp => ?_, h.seen⟩
    rcases List.mem_append.mp hp with hp | hp
    · exact hprotects.store_keeps p r s.mem hfits (hcompatible p hp) (h.waiting p hp)
    · rw [List.mem_singleton.mp hp]
      exact hprotects.store_holds r s.mem hfits h.mem
  · have hwaiting : ∀ p ∈ r :: rest, holds p s.mem := hq ▸ h.waiting
    refine ⟨h.mem, fun p hp => hwaiting p ?_, fun x hx => ?_⟩
    · -- whether or not the handler stays, the queue only loses elements
      dsimp only at hp
      split_ifs at hp
      · exact hp
      · exact List.mem_cons_of_mem r hp
    · rcases List.mem_append.mp hx with hx | hx
      · exact h.seen x hx
      · rw [List.mem_singleton.mp hx]
        exact ⟨env, s.mem, hwaiting r List.mem_cons_self, rfl⟩

/-- **Own arguments.** -/
theorem dispatched_holds {m : μ} (hprotects : L.Protects sound holds fits compatible)
    (hm : sound m) {s : State ρ μ α} (h : Reach (L.system m) (L.Careful fits compatible) s) :
    ∀ x ∈ s.dispatched, ∃ env m, holds x.1 m ∧ x.2 = L.observe x.1 env m := by
  have hintact : L.Intact sound holds s := by
    refine Reach.invariant (P := L.Intact sound holds) ?_ ?_ h
    · rintro s rfl
      exact ⟨hm, nofun, nofun⟩
    · exact fun s l t hs hcareful hnext => hs.next hprotects hcareful hnext
  exact hintact.seen

end Loop

/-! ## Each request once -/

/-- The requests dispatched and those waiting are the requests posted, in their order: each
one has been dispatched once, or waits for its turn. -/
def State.Once (s : State ρ μ α) : Prop := s.dispatched.map Prod.fst ++ s.queue = s.posted

/-- How many dispatches were repetitions. -/
def State.repeats (s : State ρ μ α) : Int :=
  s.dispatched.length + s.queue.length - s.posted.length

theorem State.Once.repeats {s : State ρ μ α} (h : s.Once) : s.repeats = 0 := by
  have hlength := congrArg List.length h
  rw [List.length_append, List.length_map] at hlength
  rw [State.repeats]
  omega

/-- When all requests have been dispatched the queue is empty. -/
theorem State.Once.queue_eq_nil {s : State ρ μ α} (h : s.Once)
    (hlength : s.dispatched.length = s.posted.length) : s.queue = [] := by
  have hlength' := congrArg List.length h
  rw [List.length_append, List.length_map] at hlength'
  exact List.length_eq_zero_iff.mp (by omega)

namespace Loop

variable {L : Loop κ ρ μ ε α}

/-- The handler dispatched does not ask to be run again. -/
def Settles (L : Loop κ ρ μ ε α) (s : State ρ μ α) : Move κ ε → Prop
  | .call _ => True
  | .dispatch env => ∀ r ∈ s.queue.head?, L.again r env s.mem = false

theorem once_next {s t : State ρ μ α} {l : Move κ ε} (h : s.Once) (hsettles : L.Settles s l)
    (hnext : L.next s l = some t) : t.Once := by
  obtain ⟨c, -, -, rfl⟩ | ⟨c, r, -, -, rfl⟩ | ⟨env, r, rest, rfl, hq, rfl⟩ := next_cases hnext
  · exact h
  · show s.dispatched.map Prod.fst ++ (s.queue ++ [r]) = s.posted ++ [r]
    rw [← List.append_assoc, h]
  · have hagain : L.again r env s.mem = false := hsettles r (by rw [hq]; rfl)
    show (s.dispatched ++ [_]).map Prod.fst ++ (if L.again r env s.mem then _ else rest) = s.posted
    rw [hagain, if_neg Bool.false_ne_true, ← h, hq, List.map_append, List.append_assoc]
    rfl

/-- A step repeats a request or not, and only a handler that asks for it makes it repeat. -/
theorem repeats_next {s t : State ρ μ α} {l : Move κ ε} (hnext : L.next s l = some t) :
    (t.repeats = s.repeats ∧ L.Settles s l) ∨ t.repeats = s.repeats + 1 := by
  obtain ⟨c, rfl, -, rfl⟩ | ⟨c, r, rfl, -, rfl⟩ | ⟨env, r, rest, rfl, hq, rfl⟩ := next_cases hnext
  · exact .inl ⟨rfl, trivial⟩
  · refine .inl ⟨?_, trivial⟩
    simp only [State.repeats, List.length_append, List.length_singleton]
    omega
  · cases hagain : L.again r env s.mem with
    | true =>
      right
      simp only [State.repeats, hq, if_true, List.length_append, List.length_cons, List.length_nil]
      omega
    | false =>
      refine .inl ⟨?_, ?_⟩
      · simp only [State.repeats, hq, Bool.false_eq_true, if_false, List.length_append,
          List.length_cons, List.length_nil]
        omega
      · intro r' hr'
        rw [hq] at hr'
        obtain rfl := Option.some.inj hr'
        exact hagain

theorem repeats_mono {ls : List (Move κ ε)} {s t : State ρ μ α}
    (h : ls.foldlM L.next s = some t) : s.repeats ≤ t.repeats := by
  induction ls generalizing s with
  | nil => rw [Option.some.inj h]
  | cons l ls ih =>
    rw [List.foldlM_cons] at h
    obtain ⟨u, hu, h⟩ := Option.bind_eq_some_iff.mp h
    have hut := ih h
    rcases repeats_next hu with ⟨heq, -⟩ | heq <;> omega

/-- **Each request once.** -/
theorem once_iff {ls : List (Move κ ε)} {s t : State ρ μ α} (hs : s.Once)
    (h : ls.foldlM L.next s = some t) : t.Once ↔ Along L.next L.Settles s ls := by
  induction ls generalizing s with
  | nil =>
    obtain rfl := Option.some.inj h
    exact iff_of_true hs trivial
  | cons l ls ih =>
    rw [List.foldlM_cons] at h
    obtain ⟨u, hu, h⟩ := Option.bind_eq_some_iff.mp h
    constructor
    · intro ht
      -- a repetition in the first step could not be made up for
      have hsettles : L.Settles s l := by
        have hmono := repeats_mono h
        rcases repeats_next hu with ⟨-, hsettles⟩ | heq
        · exact hsettles
        · rw [ht.repeats, heq, hs.repeats] at hmono
          omega
      refine ⟨hsettles, fun v hv => ?_⟩
      obtain rfl := Option.some.inj (hu.symm.trans hv)
      exact (ih (once_next hs hsettles hu) h).mp ht
    · rintro ⟨hsettles, halong⟩
      exact (ih (once_next hs hsettles hu) h).mpr (halong u hu)

end Loop

end IdleQueue
