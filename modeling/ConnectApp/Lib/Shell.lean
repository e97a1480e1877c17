import ConnectApp.Lib.CString

/-!
# How a POSIX shell splits a command into words

The part of the shell's token recognition that decides whether a text is one simple command
of plain words. `shellWords` reads the text one byte at a time: blanks separate words, a
backslash quotes the next byte and disappears with a newline, single and double quotes group,
a hash at the start of a word begins a comment. It has no result if the text has an unquoted
operator or newline, an expansion (`$`, backquote, a tilde at the start of a word, a pattern
character), or an open quote: then the text is not one command, or its words depend on more
than the text.

`Units` is the grammar of the inside of a word. `units_split` splits every text into units and
the place where they end, and `isWord_iff` says which texts are exactly one word.
-/

namespace Shell

open CString

/-! ## Reading a text -/

/-- Where the shell is in a text; `w` is the word read so far. -/
inductive Mode
  | between
  | escapeBetween
  | word (w : List UInt8)
  | escape (w : List UInt8)
  | single (w : List UInt8)
  | double (w : List UInt8)
  | doubleEscape (w : List UInt8)
  | comment
  deriving DecidableEq

/-- The words read so far, and what is being read. -/
structure State where
  mode : Mode
  words : List (List UInt8)
  deriving DecidableEq

/-- A space or a tab. -/
def isBlank (b : UInt8) : Bool := b = 32 || b = 9

/-- The bytes that, unquoted, are an operator, an expansion, a pattern, or a newline. -/
def isSpecial (b : UInt8) : Bool := (chars ";&|<>()$*?[\n" ++ [96]).contains b

/-- One byte between two words. -/
def stepBetween (b : UInt8) (words : List (List UInt8)) : Option State :=
  if isBlank b then some ⟨.between, words⟩
  else if b = 35 then some ⟨.comment, words⟩
  else if b = 126 || isSpecial b then none
  else if b = 92 then some ⟨.escapeBetween, words⟩
  else if b = 39 then some ⟨.single [], words⟩
  else if b = 34 then some ⟨.double [], words⟩
  else some ⟨.word [b], words⟩

/-- One byte inside a word, outside quotes. -/
def stepWord (b : UInt8) (w : List UInt8) (words : List (List UInt8)) : Option State :=
  if isBlank b then some ⟨.between, words ++ [w]⟩
  else if isSpecial b then none
  else if b = 92 then some ⟨.escape w, words⟩
  else if b = 39 then some ⟨.single w, words⟩
  else if b = 34 then some ⟨.double w, words⟩
  else some ⟨.word (w ++ [b]), words⟩

/-- One byte inside double quotes. -/
def stepDouble (b : UInt8) (w : List UInt8) (words : List (List UInt8)) : Option State :=
  if b = 34 then some ⟨.word w, words⟩
  else if b = 36 || b = 96 then none
  else if b = 92 then some ⟨.doubleEscape w, words⟩
  else some ⟨.double (w ++ [b]), words⟩

/-- What a backslash and the byte behind it stand for inside double quotes. -/
def escaped (b : UInt8) : List UInt8 :=
  if b = 10 then [] else if b = 34 || b = 36 || b = 92 || b = 96 then [b] else [92, b]

/-- Reads one byte. `none` for what means more than text. -/
def step (s : State) (b : UInt8) : Option State :=
  match s.mode with
  | .between => stepBetween b s.words
  | .escapeBetween => some ⟨if b = 10 then .between else .word [b], s.words⟩
  | .word w => stepWord b w s.words
  | .escape w => some ⟨.word (if b = 10 then w else w ++ [b]), s.words⟩
  | .single w => some ⟨if b = 39 then .word w else .single (w ++ [b]), s.words⟩
  | .double w => stepDouble b w s.words
  | .doubleEscape w => some ⟨.double (w ++ escaped b), s.words⟩
  | .comment => if b = 10 then none else some s

/-- The words at the end of the text. -/
def finish (s : State) : Option (List (List UInt8)) :=
  match s.mode with
  | .between => some s.words
  | .word w => some (s.words ++ [w])
  | .comment => some s.words
  | _ => none

/-- Reads a text. -/
def read (s : State) (t : List UInt8) : Option State := t.foldlM step s

/-- The words of a text that is read from `s` on. -/
def wordsFrom (s : State) (t : List UInt8) : Option (List (List UInt8)) := (read s t).bind finish

/-- The words of one simple command. -/
def shellWords (t : List UInt8) : Option (List (List UInt8)) := wordsFrom ⟨.between, []⟩ t

@[simp] theorem read_nil (s : State) : read s [] = some s := rfl

theorem read_cons (s : State) (b : UInt8) (t : List UInt8) :
    read s (b :: t) = (step s b).bind fun s => read s t := List.foldlM_cons

theorem read_append (s : State) (t u : List UInt8) :
    read s (t ++ u) = (read s t).bind fun s => read s u := List.foldlM_append

/-- Reading `t` leads from `s` to `s'`, whatever follows. -/
theorem wordsFrom_append {s s' : State} {t : List UInt8} (h : read s t = some s')
    (u : List UInt8) : wordsFrom s (t ++ u) = wordsFrom s' u := by
  unfold wordsFrom
  rw [read_append, h]
  rfl

/-! ## The words in front do not matter -/

/-- The same place with more words in front. -/
def State.after (ws : List (List UInt8)) (s : State) : State := ⟨s.mode, ws ++ s.words⟩

theorem step_after (ws : List (List UInt8)) (s : State) (b : UInt8) :
    step (s.after ws) b = (step s b).map (State.after ws) := by
  obtain ⟨mode, words⟩ := s
  cases mode with
  | between =>
    show stepBetween b (ws ++ words) = (stepBetween b words).map _
    unfold stepBetween
    split_ifs <;> rfl
  | word w =>
    show stepWord b w (ws ++ words) = (stepWord b w words).map _
    unfold stepWord
    split_ifs
    · show some (State.mk _ _) = some (State.mk _ _)
      rw [List.append_assoc]
    all_goals rfl
  | double w =>
    show stepDouble b w (ws ++ words) = (stepDouble b w words).map _
    unfold stepDouble
    split_ifs <;> rfl
  | comment =>
    show (if b = 10 then none else _) = (if b = 10 then none else _).map _
    split_ifs <;> rfl
  | _ => rfl

theorem read_after (ws : List (List UInt8)) (s : State) (t : List UInt8) :
    read (s.after ws) t = (read s t).map (State.after ws) := by
  induction t generalizing s with
  | nil => rfl
  | cons b t ih =>
    rw [read_cons, read_cons, step_after]
    cases step s b with
    | none => rfl
    | some s' => exact ih s'

theorem finish_after (ws : List (List UInt8)) (s : State) :
    finish (s.after ws) = (finish s).map (ws ++ ·) := by
  obtain ⟨mode, words⟩ := s
  cases mode with
  | word w =>
    show some (ws ++ words ++ [w]) = some (ws ++ (words ++ [w]))
    rw [List.append_assoc]
  | _ => rfl

/-- **Frame.** What is read from a place on does not depend on the words in front of it. -/
theorem wordsFrom_after (ws : List (List UInt8)) (s : State) (t : List UInt8) :
    wordsFrom (s.after ws) t = (wordsFrom s t).map (ws ++ ·) := by
  unfold wordsFrom
  rw [read_after]
  cases read s t with
  | none => rfl
  | some s' => exact finish_after ws s'

/-! ## The grammar of a word -/

/-- A byte that stands for itself inside a word. -/
def isPlain (b : UInt8) : Bool :=
  !isBlank b && !isSpecial b && b ≠ 92 && b ≠ 39 && b ≠ 34

/-- The inside of double quotes. -/
inductive Quoted : List UInt8 → Prop
  | nil : Quoted []
  | char {b : UInt8} {t : List UInt8} : b ≠ 34 → b ≠ 36 → b ≠ 92 → b ≠ 96 → Quoted t →
      Quoted (b :: t)
  | pair (b : UInt8) {t : List UInt8} : Quoted t → Quoted (92 :: b :: t)

/-- The inside of a word: plain bytes, quoted bytes, and quoted texts. -/
inductive Units : List UInt8 → Prop
  | nil : Units []
  | plain {b : UInt8} {t : List UInt8} : isPlain b = true → Units t → Units (b :: t)
  | escape (b : UInt8) {t : List UInt8} : Units t → Units (92 :: b :: t)
  | single {v t : List UInt8} : 39 ∉ v → Units t → Units (39 :: (v ++ 39 :: t))
  | double {v t : List UInt8} : Quoted v → Units t → Units (34 :: (v ++ 34 :: t))

/-- Blanks and continued lines, which separate words. -/
inductive Gap : List UInt8 → Prop
  | nil : Gap []
  | blank {b : UInt8} {t : List UInt8} : isBlank b = true → Gap t → Gap (b :: t)
  | continued {t : List UInt8} : Gap t → Gap (92 :: 10 :: t)

/-- The first unit of a word. -/
inductive First : List UInt8 → Prop
  | plain {b : UInt8} : isPlain b = true → b ≠ 35 → b ≠ 126 → First [b]
  | escape {b : UInt8} : b ≠ 10 → First [92, b]
  | single {v : List UInt8} : 39 ∉ v → First (39 :: (v ++ [39]))
  | double {v : List UInt8} : Quoted v → First (34 :: (v ++ [34]))

/-- Nothing, or a comment. -/
def NoWord (t : List UInt8) : Prop :=
  Gap t ∨ ∃ g c, Gap g ∧ 10 ∉ c ∧ t = g ++ 35 :: c

/-- What may follow a word that is the last one. -/
def Tail (t : List UInt8) : Prop := t = [] ∨ ∃ b r, isBlank b = true ∧ NoWord r ∧ t = b :: r

/-- A text that is one word. -/
def OneWord (t : List UInt8) : Prop :=
  ∃ g f u r, Gap g ∧ First f ∧ Units u ∧ Tail r ∧ t = g ++ (f ++ (u ++ r))

/-! ## Reading the pieces -/

theorem read_of_step {s s' : State} {b : UInt8} (h : step s b = some s') (t : List UInt8) :
    read s (b :: t) = read s' t := by
  rw [read_cons, h]
  rfl

theorem step_word_plain {b : UInt8} (h : isPlain b = true) (w : List UInt8)
    (ws : List (List UInt8)) : step ⟨.word w, ws⟩ b = some ⟨.word (w ++ [b]), ws⟩ := by
  unfold isPlain at h
  simp only [Bool.and_eq_true, Bool.not_eq_true', decide_eq_true_eq] at h
  obtain ⟨⟨⟨⟨hblank, hspecial⟩, hbslash⟩, hsingle⟩, hdouble⟩ := h
  show stepWord b w ws = _
  unfold stepWord
  simp only [hblank, hspecial, hbslash, hsingle, hdouble, Bool.false_eq_true, if_false]

theorem read_quoted {v : List UInt8} (h : Quoted v) (w : List UInt8) (ws : List (List UInt8)) :
    ∃ w', read ⟨.double w, ws⟩ v = some ⟨.double w', ws⟩ := by
  induction h generalizing w with
  | nil => exact ⟨w, rfl⟩
  | @char b t hquote hdollar hbslash htick _ ih =>
    obtain ⟨w', hw'⟩ := ih (w ++ [b])
    refine ⟨w', (read_of_step ?_ t).trans hw'⟩
    show stepDouble b w ws = _
    unfold stepDouble
    simp [hquote, hdollar, hbslash, htick]
  | @pair b t _ ih =>
    obtain ⟨w', hw'⟩ := ih (w ++ escaped b)
    exact ⟨w', hw'⟩

theorem read_single {v : List UInt8} (h : 39 ∉ v) (w : List UInt8) (ws : List (List UInt8)) :
    read ⟨.single w, ws⟩ v = some ⟨.single (w ++ v), ws⟩ := by
  induction v generalizing w with
  | nil => rw [List.append_nil, read_nil]
  | cons b v ih =>
    obtain ⟨hb, hv⟩ := not_or.mp (fun h' => h (List.mem_cons.mpr h'))
    have hstep : step ⟨.single w, ws⟩ b = some ⟨.single (w ++ [b]), ws⟩ := by
      show some (State.mk (if b = 39 then _ else _) ws) = _
      rw [if_neg fun h' => hb h'.symm]
    rw [read_of_step hstep, ih hv, List.append_assoc]
    rfl

/-- A text in single quotes. -/
theorem read_singleQuoted {v : List UInt8} (h : 39 ∉ v) (w : List UInt8) (ws : List (List UInt8))
    (t : List UInt8) : read ⟨.single w, ws⟩ (v ++ 39 :: t) = read ⟨.word (w ++ v), ws⟩ t := by
  rw [read_append, read_single h]
  exact read_of_step rfl t

/-- A text in double quotes. -/
theorem read_doubleQuoted {v : List UInt8} (h : Quoted v) (w : List UInt8)
    (ws : List (List UInt8)) (t : List UInt8) :
    ∃ w', read ⟨.double w, ws⟩ (v ++ 34 :: t) = read ⟨.word w', ws⟩ t := by
  obtain ⟨w', hw'⟩ := read_quoted h w ws
  refine ⟨w', ?_⟩
  rw [read_append, hw']
  exact read_of_step rfl t

/-- Units stay inside their word. -/
theorem read_units {u : List UInt8} (h : Units u) (w : List UInt8) (ws : List (List UInt8)) :
    ∃ w', read ⟨.word w, ws⟩ u = some ⟨.word w', ws⟩ := by
  induction h generalizing w with
  | nil => exact ⟨w, rfl⟩
  | @plain b t hb _ ih =>
    obtain ⟨w', hw'⟩ := ih (w ++ [b])
    exact ⟨w', (read_of_step (step_word_plain hb w ws) t).trans hw'⟩
  | @escape b t _ ih =>
    obtain ⟨w', hw'⟩ := ih (if b = 10 then w else w ++ [b])
    exact ⟨w', hw'⟩
  | @single v t hv _ ih =>
    obtain ⟨w', hw'⟩ := ih (w ++ v)
    exact ⟨w', (read_singleQuoted hv w ws t).trans hw'⟩
  | @double v t hv _ ih =>
    obtain ⟨w₁, hw₁⟩ := read_doubleQuoted hv w ws t
    obtain ⟨w', hw'⟩ := ih w₁
    exact ⟨w', hw₁.trans hw'⟩

theorem step_between_blank {b : UInt8} (h : isBlank b = true) (ws : List (List UInt8)) :
    step ⟨.between, ws⟩ b = some ⟨.between, ws⟩ := if_pos h

theorem step_word_blank {b : UInt8} (h : isBlank b = true) (w : List UInt8)
    (ws : List (List UInt8)) : step ⟨.word w, ws⟩ b = some ⟨.between, ws ++ [w]⟩ := if_pos h

theorem read_gap {g : List UInt8} (h : Gap g) (ws : List (List UInt8)) :
    read ⟨.between, ws⟩ g = some ⟨.between, ws⟩ := by
  induction h with
  | nil => rfl
  | @blank b t hb _ ih => exact (read_of_step (step_between_blank hb ws) t).trans ih
  | continued _ ih => exact ih

theorem read_comment {c : List UInt8} (h : 10 ∉ c) (ws : List (List UInt8)) :
    read ⟨.comment, ws⟩ c = some ⟨.comment, ws⟩ := by
  induction c with
  | nil => rfl
  | cons b c ih =>
    obtain ⟨hb, hc⟩ := not_or.mp (fun h' => h (List.mem_cons.mpr h'))
    have hstep : step ⟨.comment, ws⟩ b = some ⟨.comment, ws⟩ := if_neg fun h' => hb h'.symm
    rw [read_of_step hstep, ih hc]

theorem step_between_plain {b : UInt8} (hb : isPlain b = true) (hhash : b ≠ 35) (htilde : b ≠ 126)
    (ws : List (List UInt8)) : step ⟨.between, ws⟩ b = some ⟨.word [b], ws⟩ := by
  unfold isPlain at hb
  simp only [Bool.and_eq_true, Bool.not_eq_true', decide_eq_true_eq] at hb
  obtain ⟨⟨⟨⟨hblank, hspecial⟩, hbslash⟩, hsingle⟩, hdouble⟩ := hb
  show stepBetween b ws = _
  unfold stepBetween
  simp [hblank, hspecial, hbslash, hsingle, hdouble, hhash, htilde]

/-- A first unit begins a word. -/
theorem read_first {f : List UInt8} (h : First f) (ws : List (List UInt8)) :
    ∃ w, read ⟨.between, ws⟩ f = some ⟨.word w, ws⟩ := by
  cases h with
  | @plain b hb hhash htilde =>
    exact ⟨[b], read_of_step (step_between_plain hb hhash htilde ws) []⟩
  | @escape b hb =>
    refine ⟨[b], ?_⟩
    show some (State.mk (if b = 10 then _ else _) ws) = _
    rw [if_neg hb]
  | @single v hv => exact ⟨v, read_singleQuoted hv [] ws []⟩
  | @double v hv => exact read_doubleQuoted hv [] ws []

/-! ## Where the pieces end -/

/-- Where the inside of double quotes ends. -/
inductive QuotedEnd : List UInt8 → Prop
  | done : QuotedEnd []
  | escape : QuotedEnd [92]
  | close (t : List UInt8) : QuotedEnd (34 :: t)
  | expansion {b : UInt8} (t : List UInt8) : b = 36 ∨ b = 96 → QuotedEnd (b :: t)

theorem quoted_split : ∀ v : List UInt8, ∃ d e, v = d ++ e ∧ Quoted d ∧ QuotedEnd e
  | [] => ⟨[], [], rfl, .nil, .done⟩
  | b :: t => by
    by_cases hquote : b = 34
    · subst hquote
      exact ⟨[], _, rfl, .nil, .close t⟩
    by_cases hexp : b = 36 ∨ b = 96
    · exact ⟨[], _, rfl, .nil, .expansion t hexp⟩
    by_cases hbslash : b = 92
    · subst hbslash
      match t with
      | [] => exact ⟨[], _, rfl, .nil, .escape⟩
      | c :: t =>
        obtain ⟨d, e, rfl, hd, he⟩ := quoted_split t
        exact ⟨92 :: c :: d, e, rfl, .pair c hd, he⟩
    · obtain ⟨d, e, rfl, hd, he⟩ := quoted_split t
      obtain ⟨hdollar, htick⟩ := not_or.mp hexp
      exact ⟨b :: d, e, rfl, .char hquote hdollar hbslash htick hd, he⟩

/-- Where the units of a word end. -/
inductive Stuck : List UInt8 → Prop
  | done : Stuck []
  | blank {b : UInt8} (t : List UInt8) : isBlank b = true → Stuck (b :: t)
  | special {b : UInt8} (t : List UInt8) : isBlank b = false → isSpecial b = true → Stuck (b :: t)
  | escape : Stuck [92]
  | single {v : List UInt8} : 39 ∉ v → Stuck (39 :: v)
  | double {v : List UInt8} : Quoted v → Stuck (34 :: v)
  | doubleEscape {v : List UInt8} : Quoted v → Stuck (34 :: (v ++ [92]))
  | expansion {v : List UInt8} {b : UInt8} (t : List UInt8) : Quoted v → b = 36 ∨ b = 96 →
      Stuck (34 :: (v ++ b :: t))

theorem single_split (v : List UInt8) : 39 ∉ v ∨ ∃ d t, v = d ++ 39 :: t ∧ 39 ∉ d := by
  by_cases h : 39 ∈ v
  · obtain ⟨d, t, hv, hd⟩ := List.eq_append_cons_of_mem h
    exact .inr ⟨d, t, hv, hd⟩
  · exact .inl h

/-- Every text is a sequence of units up to the place where they end. -/
theorem units_split (t : List UInt8) : ∃ u e, t = u ++ e ∧ Units u ∧ Stuck e := by
  induction hn : t.length using Nat.strong_induction_on generalizing t with
  | _ n ih =>
    match t with
    | [] => exact ⟨[], [], rfl, .nil, .done⟩
    | b :: t =>
      have hrest : ∀ r : List UInt8, r.length ≤ t.length → ∃ u e, r = u ++ e ∧ Units u ∧ Stuck e := by
        intro r hr
        exact ih r.length (by rw [← hn, List.length_cons]; omega) r rfl
      cases hblank : isBlank b with
      | true => exact ⟨[], _, rfl, .nil, .blank t hblank⟩
      | false =>
        cases hspecial : isSpecial b with
        | true => exact ⟨[], _, rfl, .nil, .special t hblank hspecial⟩
        | false =>
          by_cases hbslash : b = 92
          · subst hbslash
            match t with
            | [] => exact ⟨[], _, rfl, .nil, .escape⟩
            | c :: t =>
              obtain ⟨u, e, rfl, hu, he⟩ := hrest t (by rw [List.length_cons]; omega)
              exact ⟨92 :: c :: u, e, rfl, .escape c hu, he⟩
          by_cases hsingle : b = 39
          · subst hsingle
            rcases single_split t with hopen | ⟨d, r, rfl, hd⟩
            · exact ⟨[], _, rfl, .nil, .single hopen⟩
            · obtain ⟨u, e, rfl, hu, he⟩ := hrest r (by rw [List.length_append, List.length_cons]; omega)
              exact ⟨39 :: (d ++ 39 :: u), e, by simp, .single hd hu, he⟩
          by_cases hdouble : b = 34
          · subst hdouble
            obtain ⟨d, r, rfl, hd, hr⟩ := quoted_split t
            cases hr with
            | done => exact ⟨[], _, rfl, .nil, by rw [List.append_nil]; exact .double hd⟩
            | escape => exact ⟨[], _, rfl, .nil, .doubleEscape hd⟩
            | expansion r hb => exact ⟨[], _, rfl, .nil, .expansion r hd hb⟩
            | close r =>
              obtain ⟨u, e, rfl, hu, he⟩ := hrest r (by rw [List.length_append, List.length_cons]; omega)
              exact ⟨34 :: (d ++ 34 :: u), e, by simp, .double hd hu, he⟩
          · obtain ⟨u, e, rfl, hu, he⟩ := hrest t (Nat.le_refl _)
            refine ⟨b :: u, e, rfl, .plain ?_ hu, he⟩
            simp [isPlain, hblank, hspecial, hbslash, hsingle, hdouble]

/-- Where a gap ends: at the end of the text, in front of a comment, or in front of something
that a word could begin with. -/
inductive GapEnd : List UInt8 → Prop
  | done : GapEnd []
  | escape : GapEnd [92]
  | comment (c : List UInt8) : GapEnd (35 :: c)
  | escaped {b : UInt8} (t : List UInt8) : b ≠ 10 → GapEnd (92 :: b :: t)
  | other {b : UInt8} (t : List UInt8) : isBlank b = false → b ≠ 35 → b ≠ 92 → GapEnd (b :: t)

theorem gap_split : ∀ t : List UInt8, ∃ g e, t = g ++ e ∧ Gap g ∧ GapEnd e
  | [] => ⟨[], [], rfl, .nil, .done⟩
  | b :: t => by
    cases hblank : isBlank b with
    | true =>
      obtain ⟨g, e, rfl, hg, he⟩ := gap_split t
      exact ⟨b :: g, e, rfl, .blank hblank hg, he⟩
    | false =>
      by_cases hhash : b = 35
      · subst hhash
        exact ⟨[], _, rfl, .nil, .comment t⟩
      by_cases hbslash : b = 92
      · subst hbslash
        match t with
        | [] => exact ⟨[], _, rfl, .nil, .escape⟩
        | c :: t =>
          by_cases hnl : c = 10
          · subst hnl
            obtain ⟨g, e, rfl, hg, he⟩ := gap_split t
            exact ⟨92 :: 10 :: g, e, rfl, .continued hg, he⟩
          · exact ⟨[], _, rfl, .nil, .escaped t hnl⟩
      · exact ⟨[], _, rfl, .nil, .other t hblank hhash hbslash⟩

/-! ## Counting words -/

/-- The words begun so far. -/
def State.count (s : State) : Nat :=
  match s.mode with
  | .between => s.words.length
  | .escapeBetween => s.words.length
  | .comment => s.words.length
  | _ => s.words.length + 1

theorem count_step {s s' : State} {b : UInt8} (h : step s b = some s') : s.count ≤ s'.count := by
  obtain ⟨mode, words⟩ := s
  cases mode with
  | between =>
    have h : stepBetween b words = some s' := h
    unfold stepBetween at h
    split_ifs at h
    all_goals
      obtain rfl := Option.some.inj h
      simp [State.count]
  | escapeBetween =>
    obtain rfl := Option.some.inj h
    split_ifs <;> simp [State.count]
  | word w =>
    have h : stepWord b w words = some s' := h
    unfold stepWord at h
    split_ifs at h
    all_goals
      obtain rfl := Option.some.inj h
      simp [State.count]
  | escape w =>
    obtain rfl := Option.some.inj h
    exact Nat.le_refl _
  | single w =>
    obtain rfl := Option.some.inj h
    split_ifs <;> exact Nat.le_refl _
  | double w =>
    have h : stepDouble b w words = some s' := h
    unfold stepDouble at h
    split_ifs at h
    all_goals
      obtain rfl := Option.some.inj h
      simp [State.count]
  | doubleEscape w =>
    obtain rfl := Option.some.inj h
    exact Nat.le_refl _
  | comment =>
    have h : (if b = 10 then none else some (State.mk .comment words)) = some s' := h
    split_ifs at h
    obtain rfl := Option.some.inj h
    exact Nat.le_refl _

theorem count_read {s s' : State} {t : List UInt8} (h : read s t = some s') :
    s.count ≤ s'.count := by
  induction t generalizing s with
  | nil =>
    obtain rfl := Option.some.inj h
    exact Nat.le_refl _
  | cons b t ih =>
    rw [read_cons] at h
    obtain ⟨s₁, hstep, h⟩ := Option.bind_eq_some_iff.mp h
    exact (count_step hstep).trans (ih h)

theorem count_finish {s : State} {ws : List (List UInt8)} (h : finish s = some ws) :
    ws.length = s.count := by
  obtain ⟨mode, words⟩ := s
  cases mode with
  | between =>
    obtain rfl := Option.some.inj h
    rfl
  | word w =>
    obtain rfl := Option.some.inj h
    exact List.length_append
  | comment =>
    obtain rfl := Option.some.inj h
    rfl
  | _ => cases h

/-- The text is read from `s` to its end, with `n` words in all. -/
def Gives (s : State) (t : List UInt8) (n : Nat) : Prop :=
  ∃ ws, wordsFrom s t = some ws ∧ ws.length = n

theorem Gives.count_le {s : State} {t : List UInt8} {n : Nat} (h : Gives s t n) : s.count ≤ n := by
  obtain ⟨ws, hws, rfl⟩ := h
  obtain ⟨s', hread, hfinish⟩ := Option.bind_eq_some_iff.mp hws
  rw [count_finish hfinish]
  exact count_read hread

theorem gives_append {s s' : State} {t : List UInt8} (h : read s t = some s') (u : List UInt8)
    (n : Nat) : Gives s (t ++ u) n ↔ Gives s' u n := by
  unfold Gives
  rw [wordsFrom_append h]

theorem gives_cons {s s' : State} {b : UInt8} (h : step s b = some s') (t : List UInt8) (n : Nat) :
    Gives s (b :: t) n ↔ Gives s' t n := gives_append (t := [b]) (read_of_step h []) t n

theorem not_gives_of_step {s : State} {b : UInt8} (h : step s b = none) (t : List UInt8) (n : Nat) :
    ¬ Gives s (b :: t) n := by
  rintro ⟨ws, hws, -⟩
  unfold wordsFrom at hws
  rw [read_cons, h] at hws
  cases hws

/-- An open quotation has no end. -/
theorem not_gives_single {v : List UInt8} (h : 39 ∉ v) (w : List UInt8) (ws : List (List UInt8))
    (n : Nat) : ¬ Gives ⟨.single w, ws⟩ v n := by
  rintro ⟨ws', hws, -⟩
  unfold wordsFrom at hws
  rw [read_single h] at hws
  cases hws

theorem not_gives_double {v : List UInt8} (h : Quoted v) (w : List UInt8) (ws : List (List UInt8))
    (n : Nat) : ¬ Gives ⟨.double w, ws⟩ v n := by
  obtain ⟨w', hw'⟩ := read_quoted h w ws
  rintro ⟨ws', hws, -⟩
  unfold wordsFrom at hws
  rw [hw'] at hws
  cases hws

/-! ## Which texts are one word -/

theorem length_words_concat (ws : List (List UInt8)) (w : List UInt8) :
    (ws ++ [w]).length = ws.length + 1 := List.length_append

theorem gives_comment {c : List UInt8} {ws : List (List UInt8)} {n : Nat} :
    Gives ⟨.comment, ws⟩ c n ↔ 10 ∉ c ∧ ws.length = n := by
  constructor
  · intro h
    induction c with
    | nil =>
      obtain ⟨ws', hws, hn⟩ := h
      obtain rfl := Option.some.inj hws
      exact ⟨List.not_mem_nil, hn⟩
    | cons b c ih =>
      by_cases hb : b = 10
      · have hstep : step ⟨.comment, ws⟩ b = none := if_pos hb
        exact absurd h (not_gives_of_step hstep c n)
      · have hstep : step ⟨.comment, ws⟩ b = some ⟨.comment, ws⟩ := if_neg hb
        obtain ⟨hc, hn⟩ := ih ((gives_cons hstep c n).mp h)
        refine ⟨fun hmem => ?_, hn⟩
        rcases List.mem_cons.mp hmem with h' | h'
        · exact hb h'.symm
        · exact hc h'
  · rintro ⟨hc, hn⟩
    refine ⟨ws, ?_, hn⟩
    unfold wordsFrom
    rw [read_comment hc]
    rfl

/-- A byte that is no blank, no hash and no backslash begins a word, or there is no result. -/
theorem step_other {b : UInt8} {ws : List (List UInt8)} {s : State} (hblank : isBlank b = false)
    (hhash : b ≠ 35) (hbslash : b ≠ 92) (h : step ⟨.between, ws⟩ b = some s) :
    s.count = ws.length + 1 := by
  have h : stepBetween b ws = some s := h
  unfold stepBetween at h
  simp only [hblank, hhash, hbslash, Bool.false_eq_true, if_false] at h
  split_ifs at h
  all_goals
    obtain rfl := Option.some.inj h
    rfl

/-- Behind the last word. -/
theorem gives_noWord {t : List UInt8} {ws : List (List UInt8)} :
    Gives ⟨.between, ws⟩ t ws.length ↔ NoWord t := by
  constructor
  · intro h
    obtain ⟨g, e, rfl, hg, he⟩ := gap_split t
    rw [gives_append (read_gap hg ws)] at h
    cases he with
    | done => exact .inl (by rwa [List.append_nil])
    | escape =>
      obtain ⟨ws', hws, -⟩ := h
      cases hws
    | comment c =>
      have hc := ((gives_cons rfl c _).mp h : Gives ⟨.comment, ws⟩ c _)
      exact .inr ⟨g, c, hg, (gives_comment.mp hc).1, rfl⟩
    | @escaped b r hb =>
      -- a quoted byte begins a word
      have hstep : step ⟨.escapeBetween, ws⟩ b = some ⟨.word [b], ws⟩ := by
        show some (State.mk (if b = 10 then _ else _) ws) = _
        rw [if_neg hb]
      have hword := ((gives_cons rfl (b :: r) _).mp h : Gives ⟨.escapeBetween, ws⟩ (b :: r) _)
      have hle := ((gives_cons hstep r _).mp hword).count_le
      exact absurd hle (Nat.not_succ_le_self _)
    | @other b r hblank hhash hbslash =>
      cases hstep : step ⟨.between, ws⟩ b with
      | none => exact absurd h (not_gives_of_step hstep r _)
      | some s =>
        have hle := ((gives_cons hstep r _).mp h).count_le
        rw [step_other hblank hhash hbslash hstep] at hle
        exact absurd hle (Nat.not_succ_le_self _)
  · rintro (hg | ⟨g, c, hg, hc, rfl⟩)
    · refine ⟨ws, ?_, rfl⟩
      unfold wordsFrom
      rw [read_gap hg]
      rfl
    · rw [gives_append (read_gap hg ws)]
      exact (gives_cons rfl c _).mpr (gives_comment.mpr ⟨hc, rfl⟩)

/-- Behind the units of a word that are followed by `e`. -/
theorem gives_units {u : List UInt8} (hu : Units u) (w e : List UInt8) (ws : List (List UInt8))
    (n : Nat) : ∃ w', Gives ⟨.word w, ws⟩ (u ++ e) n ↔ Gives ⟨.word w', ws⟩ e n := by
  obtain ⟨w', hw'⟩ := read_units hu w ws
  exact ⟨w', gives_append hw' e n⟩

theorem step_word_special {b : UInt8} (hblank : isBlank b = false) (h : isSpecial b = true)
    (w : List UInt8) (ws : List (List UInt8)) : step ⟨.word w, ws⟩ b = none := by
  show stepWord b w ws = none
  unfold stepWord
  simp only [hblank, h, Bool.false_eq_true, if_false, if_true]

theorem step_double_expansion {b : UInt8} (h : b = 36 ∨ b = 96) (w : List UInt8)
    (ws : List (List UInt8)) : step ⟨.double w, ws⟩ b = none := by
  rcases h with rfl | rfl <;> rfl

/-- The rest of the last word. -/
theorem gives_rest {t w : List UInt8} {ws : List (List UInt8)} :
    Gives ⟨.word w, ws⟩ t (ws.length + 1) ↔ ∃ u r, Units u ∧ Tail r ∧ t = u ++ r := by
  constructor
  · intro h
    obtain ⟨u, e, rfl, hu, he⟩ := units_split t
    obtain ⟨w', hiff⟩ := gives_units hu w e ws (ws.length + 1)
    rw [hiff] at h
    refine ⟨u, e, hu, ?_, rfl⟩
    cases he with
    | done => exact .inl rfl
    | @blank b r hb =>
      have hnext := (gives_cons (step_word_blank hb w' ws) r _).mp h
      rw [← length_words_concat ws w'] at hnext
      exact .inr ⟨b, r, hb, gives_noWord.mp hnext, rfl⟩
    | special r hblank hspecial =>
      exact absurd h (not_gives_of_step (step_word_special hblank hspecial w' ws) r _)
    | escape =>
      obtain ⟨ws', hws, -⟩ := h
      cases hws
    | single hv => exact absurd ((gives_cons rfl _ _).mp h) (not_gives_single hv w' ws _)
    | double hv => exact absurd ((gives_cons rfl _ _).mp h) (not_gives_double hv w' ws _)
    | @doubleEscape v hv =>
      obtain ⟨w₁, hw₁⟩ := read_quoted hv w' ws
      have hopen := ((gives_cons rfl _ _).mp h : Gives ⟨.double w', ws⟩ (v ++ [92]) _)
      obtain ⟨ws', hws, -⟩ := (gives_append hw₁ [92] _).mp hopen
      cases hws
    | @expansion v b r hv hb =>
      obtain ⟨w₁, hw₁⟩ := read_quoted hv w' ws
      have hopen := ((gives_cons rfl _ _).mp h : Gives ⟨.double w', ws⟩ (v ++ b :: r) _)
      exact absurd ((gives_append hw₁ (b :: r) _).mp hopen)
        (not_gives_of_step (step_double_expansion hb w₁ ws) r _)
  · rintro ⟨u, r, hu, hr, rfl⟩
    obtain ⟨w', hiff⟩ := gives_units hu w r ws (ws.length + 1)
    rw [hiff]
    rcases hr with rfl | ⟨b, r, hb, hno, rfl⟩
    · exact ⟨ws ++ [w'], rfl, List.length_append⟩
    · rw [gives_cons (step_word_blank hb w' ws)]
      rw [← length_words_concat ws w']
      exact gives_noWord.mpr hno

/-- **One word.** The texts that the shell reads as exactly one word. -/
theorem isWord_iff {t : List UInt8} : Gives ⟨.between, []⟩ t 1 ↔ OneWord t := by
  constructor
  · intro h
    obtain ⟨g, e, rfl, hg, he⟩ := gap_split t
    rw [gives_append (read_gap hg [])] at h
    have hword : ∀ {f r w : List UInt8}, First f → e = f ++ r → Gives ⟨.word w, []⟩ r 1 →
        OneWord (g ++ e) := by
      intro f r w hf hfr hr
      obtain ⟨u, tail, hu, htail, hrest⟩ := gives_rest.mp hr
      exact ⟨g, f, u, tail, hg, hf, hu, htail, by rw [hfr, hrest]⟩
    cases he with
    | done =>
      obtain ⟨ws, hws, hone⟩ := h
      obtain rfl := Option.some.inj hws
      cases hone
    | escape =>
      obtain ⟨ws, hws, -⟩ := h
      cases hws
    | comment c =>
      have hc := ((gives_cons rfl c _).mp h : Gives ⟨.comment, []⟩ c _)
      cases (gives_comment.mp hc).2
    | @escaped b r hb =>
      have hstep : step ⟨.escapeBetween, []⟩ b = some ⟨.word [b], []⟩ := by
        show some (State.mk (if b = 10 then _ else _) []) = _
        rw [if_neg hb]
      have hesc := ((gives_cons rfl (b :: r) _).mp h : Gives ⟨.escapeBetween, []⟩ (b :: r) _)
      exact hword (.escape hb) rfl ((gives_cons hstep r _).mp hesc)
    | @other b r hblank hhash hbslash =>
      by_cases hsingle : b = 39
      · subst hsingle
        have hopen := ((gives_cons rfl r _).mp h : Gives ⟨.single [], []⟩ r _)
        rcases single_split r with hnone | ⟨d, r, rfl, hd⟩
        · exact absurd hopen (not_gives_single hnone [] [] _)
        · refine hword (.single hd) (r := r) (w := d) (by simp) ?_
          obtain ⟨ws, hws, hone⟩ := hopen
          unfold wordsFrom at hws
          rw [read_singleQuoted hd] at hws
          exact ⟨ws, hws, hone⟩
      by_cases hdouble : b = 34
      · subst hdouble
        have hopen := ((gives_cons rfl r _).mp h : Gives ⟨.double [], []⟩ r _)
        obtain ⟨d, e, rfl, hd, he⟩ := quoted_split r
        obtain ⟨w, hw⟩ := read_quoted hd [] []
        rw [gives_append hw] at hopen
        cases he with
        | done =>
          obtain ⟨ws, hws, -⟩ := hopen
          cases hws
        | escape =>
          obtain ⟨ws, hws, -⟩ := hopen
          cases hws
        | expansion r hb =>
          exact absurd hopen (not_gives_of_step (step_double_expansion hb w []) r _)
        | close r => exact hword (.double hd) (by simp) ((gives_cons rfl r _).mp hopen)
      · by_cases hnone : b = 126 ∨ isSpecial b = true
        · have hstep : step ⟨.between, []⟩ b = none := by
            show stepBetween b [] = none
            unfold stepBetween
            simp [hblank, hhash, hnone]
          exact absurd h (not_gives_of_step hstep r _)
        · obtain ⟨htilde, hspecial⟩ := not_or.mp hnone
          rw [Bool.not_eq_true] at hspecial
          have hplain : isPlain b = true := by
            simp [isPlain, hblank, hspecial, hbslash, hsingle, hdouble]
          have hstep := step_between_plain hplain hhash htilde []
          exact hword (.plain hplain hhash htilde) rfl ((gives_cons hstep r _).mp h)
  · rintro ⟨g, f, u, r, hg, hf, hu, hr, rfl⟩
    obtain ⟨w, hw⟩ := read_first hf []
    rw [gives_append (read_gap hg []), gives_append hw]
    exact gives_rest.mpr ⟨u, r, hu, hr, rfl⟩

/-- A text that stays one word between two quoted quotation marks. -/
inductive InsideWord : List UInt8 → Prop
  | units {t : List UInt8} : Units t → InsideWord t
  | closed {u v : List UInt8} : Units u → Quoted v → InsideWord (u ++ 34 :: (v ++ [92]))
  | comment {u g c : List UInt8} {b : UInt8} : Units u → isBlank b = true → Gap g → 10 ∉ c →
      InsideWord (u ++ b :: (g ++ 35 :: c))

/-- Behind a word, a gap in front of a quoted quotation mark has to hide it in a comment. -/
theorem gives_hidden {r : List UInt8} {ws : List (List UInt8)}
    (h : Gives ⟨.between, ws⟩ (r ++ [92, 34]) ws.length) :
    ∃ g c, Gap g ∧ 10 ∉ c ∧ r = g ++ 35 :: c := by
  obtain ⟨g, e, rfl, hg, he⟩ := gap_split r
  rw [List.append_assoc, gives_append (read_gap hg ws)] at h
  cases he with
  | done =>
    have hword : Gives ⟨.word [34], ws⟩ [] ws.length := h
    exact absurd hword.count_le (Nat.not_succ_le_self _)
  | escape =>
    obtain ⟨ws', hws, -⟩ := h
    cases hws
  | comment c =>
    have hc := ((gives_cons rfl (c ++ [92, 34]) _).mp h : Gives ⟨.comment, ws⟩ _ _)
    refine ⟨g, c, hg, fun hmem => ?_, rfl⟩
    exact (gives_comment.mp hc).1 (List.mem_append_left _ hmem)
  | @escaped b t hb =>
    have hstep : step ⟨.escapeBetween, ws⟩ b = some ⟨.word [b], ws⟩ := by
      show some (State.mk (if b = 10 then _ else _) ws) = _
      rw [if_neg hb]
    have hesc := ((gives_cons rfl (b :: (t ++ [92, 34])) _).mp h : Gives ⟨.escapeBetween, ws⟩ _ _)
    exact absurd ((gives_cons hstep _ _).mp hesc).count_le (Nat.not_succ_le_self _)
  | @other b t hblank hhash hbslash =>
    cases hstep : step ⟨.between, ws⟩ b with
    | none => exact absurd h (not_gives_of_step hstep _ _)
    | some s =>
      have hle := ((gives_cons hstep _ _).mp h).count_le
      rw [step_other hblank hhash hbslash hstep] at hle
      exact absurd hle (Nat.not_succ_le_self _)

/-- **Between quotation marks.** Inside a word, a text followed by a quoted quotation mark ends
that word, which is the last one, exactly for the texts of `InsideWord`. -/
theorem gives_inside {t w : List UInt8} {ws : List (List UInt8)} :
    Gives ⟨.word w, ws⟩ (t ++ [92, 34]) (ws.length + 1) ↔ InsideWord t := by
  constructor
  · intro h
    obtain ⟨u, e, rfl, hu, he⟩ := units_split t
    rw [List.append_assoc] at h
    obtain ⟨w', hiff⟩ := gives_units hu w (e ++ [92, 34]) ws (ws.length + 1)
    rw [hiff] at h
    cases he with
    | done => exact .units (by rwa [List.append_nil])
    | @blank b r hb =>
      rw [List.cons_append] at h
      have hnext := (gives_cons (step_word_blank hb w' ws) (r ++ [92, 34]) _).mp h
      rw [← length_words_concat ws w'] at hnext
      obtain ⟨g, c, hg, hc, rfl⟩ := gives_hidden hnext
      exact .comment hu hb hg hc
    | special r hblank hspecial =>
      exact absurd h (not_gives_of_step (step_word_special hblank hspecial w' ws) _ _)
    | escape =>
      obtain ⟨ws', hws, -⟩ := h
      cases hws
    | @single v hv =>
      have hopen : 39 ∉ v ++ [92, 34] := by
        rw [List.mem_append]
        rintro (h' | h')
        · exact hv h'
        · exact absurd h' (by decide)
      exact absurd ((gives_cons rfl _ _).mp h) (not_gives_single hopen w' ws _)
    | @double v hv =>
      obtain ⟨w₁, hw₁⟩ := read_quoted hv w' ws
      have hopen := ((gives_cons rfl _ _).mp h : Gives ⟨.double w', ws⟩ (v ++ [92, 34]) _)
      obtain ⟨ws', hws, -⟩ := (gives_append hw₁ [92, 34] _).mp hopen
      cases hws
    | @doubleEscape v hv => exact .closed hu hv
    | @expansion v b r hv hb =>
      obtain ⟨w₁, hw₁⟩ := read_quoted hv w' ws
      have hopen := ((gives_cons rfl _ _).mp h : Gives ⟨.double w', ws⟩ (v ++ b :: r ++ [92, 34]) _)
      rw [List.append_assoc] at hopen
      exact absurd ((gives_append hw₁ _ _).mp hopen)
        (not_gives_of_step (step_double_expansion hb w₁ ws) _ _)
  · intro h
    cases h with
    | units hu =>
      obtain ⟨w', hiff⟩ := gives_units hu w [92, 34] ws (ws.length + 1)
      rw [hiff]
      exact ⟨_, rfl, length_words_concat ws _⟩
    | @closed u v hu hv =>
      rw [List.append_assoc]
      obtain ⟨w', hiff⟩ := gives_units hu w (34 :: (v ++ [92]) ++ [92, 34]) ws (ws.length + 1)
      rw [hiff]
      obtain ⟨w₁, hw₁⟩ := read_quoted hv w' ws
      have hopen : step ⟨.word w', ws⟩ 34 = some ⟨.double w', ws⟩ := rfl
      rw [List.cons_append, gives_cons hopen, List.append_assoc, gives_append hw₁]
      exact ⟨_, rfl, length_words_concat ws _⟩
    | @comment u g c b hu hb hg hc =>
      rw [List.append_assoc]
      obtain ⟨w', hiff⟩ := gives_units hu w (b :: (g ++ 35 :: c) ++ [92, 34]) ws (ws.length + 1)
      rw [hiff]
      rw [List.cons_append, gives_cons (step_word_blank hb w' ws)]
      rw [← length_words_concat ws w', gives_noWord]
      refine .inr ⟨g, c ++ [92, 34], hg, ?_, by simp⟩
      rw [List.mem_append]
      rintro (h' | h')
      · exact hc h'
      · exact absurd h' (by decide)

/-! ## Plain words and quoted bytes -/

/-- Plain bytes are units. -/
theorem units_of_plain {t : List UInt8} (h : ∀ b ∈ t, isPlain b = true) : Units t := by
  induction t with
  | nil => exact .nil
  | cons b t ih =>
    exact .plain (h b List.mem_cons_self) (ih fun c hc => h c (List.mem_cons_of_mem _ hc))

/-- Every byte behind a backslash is a unit. -/
theorem units_escaped (t : List UInt8) : Units (t.flatMap fun b => [92, b]) := by
  induction t with
  | nil => exact .nil
  | cons b t ih => exact .escape b ih

theorem read_plain {t : List UInt8} (h : ∀ b ∈ t, isPlain b = true) (w : List UInt8)
    (ws : List (List UInt8)) : read ⟨.word w, ws⟩ t = some ⟨.word (w ++ t), ws⟩ := by
  induction t generalizing w with
  | nil => rw [List.append_nil, read_nil]
  | cons b t ih =>
    rw [read_of_step (step_word_plain (h b List.mem_cons_self) w ws),
      ih (fun c hc => h c (List.mem_cons_of_mem _ hc)), List.append_assoc]
    rfl

/-- A backslash in front of every byte keeps a text without newlines as it is. -/
theorem read_escaped {t : List UInt8} (h : 10 ∉ t) (w : List UInt8) (ws : List (List UInt8)) :
    read ⟨.word w, ws⟩ (t.flatMap fun b => [92, b]) = some ⟨.word (w ++ t), ws⟩ := by
  induction t generalizing w with
  | nil => rw [List.append_nil]; rfl
  | cons b t ih =>
    rw [List.mem_cons, not_or] at h
    have hbslash : step ⟨.word w, ws⟩ 92 = some ⟨.escape w, ws⟩ := rfl
    have hbyte : step ⟨.escape w, ws⟩ b = some ⟨.word (w ++ [b]), ws⟩ := by
      show some (State.mk (.word (if b = 10 then w else w ++ [b])) ws) = _
      rw [if_neg fun hb => h.1 hb.symm]
    show read ⟨.word w, ws⟩ (92 :: b :: t.flatMap fun b => [92, b]) = _
    rw [read_of_step hbslash, read_of_step hbyte, ih h.2, List.append_assoc]
    rfl

/-- A text that is read as itself: a word of plain bytes. -/
structure PlainWord (t : List UInt8) : Prop where
  nonempty : t ≠ []
  start : ∀ b ∈ t.head?, b ≠ 35 ∧ b ≠ 126
  plain : ∀ b ∈ t, isPlain b = true

/-- Letters, digits, the hyphen and the underscore. -/
def isWordChar (b : UInt8) : Bool :=
  (97 ≤ b && b ≤ 122) || (65 ≤ b && b ≤ 90) || (48 ≤ b && b ≤ 57) || b = 45 || b = 95

theorem PlainWord.of_wordChars {t : List UInt8} (hne : t ≠ [])
    (h : ∀ b ∈ t, isWordChar b = true) : PlainWord t := by
  have hchar : ∀ b, isWordChar b = true → isPlain b = true ∧ b ≠ 35 ∧ b ≠ 126 := by
    decide +kernel
  exact ⟨hne, fun b hb => (hchar b (h b (List.mem_of_mem_head? hb))).2,
    fun b hb => (hchar b (h b hb)).1⟩

theorem PlainWord.first {b : UInt8} {t : List UInt8} (h : PlainWord (b :: t)) : First [b] :=
  .plain (h.plain b List.mem_cons_self) (h.start b rfl).1 (h.start b rfl).2

theorem PlainWord.read {t : List UInt8} (h : PlainWord t) (ws : List (List UInt8)) :
    read ⟨.between, ws⟩ t = some ⟨.word t, ws⟩ := by
  obtain ⟨b, t, rfl⟩ := List.exists_cons_of_ne_nil h.nonempty
  have hstep := step_between_plain (h.plain b List.mem_cons_self) (h.start b rfl).1
    (h.start b rfl).2 ws
  rw [read_of_step hstep, read_plain fun c hc => h.plain c (List.mem_cons_of_mem _ hc)]
  rfl

/-- A plain word, the blank behind it, and the rest. -/
theorem PlainWord.wordsFrom {t : List UInt8} (h : PlainWord t) (ws : List (List UInt8))
    (u : List UInt8) :
    wordsFrom ⟨.between, ws⟩ (t ++ 32 :: u) = wordsFrom ⟨.between, ws ++ [t]⟩ u := by
  rw [wordsFrom_append (h.read ws)]
  exact wordsFrom_append (t := [32]) (read_of_step (step_word_blank rfl t ws) []) u

theorem PlainWord.shellWords {t : List UInt8} (h : PlainWord t) : shellWords t = some [t] := by
  rw [Shell.shellWords, Shell.wordsFrom, h.read]
  rfl

/-- A plain word is one word. -/
theorem PlainWord.oneWord {t : List UInt8} (h : PlainWord t) : OneWord t := by
  obtain ⟨b, t, rfl⟩ := List.exists_cons_of_ne_nil h.nonempty
  refine ⟨[], [b], t, [], .nil, h.first, ?_, .inl rfl, by simp⟩
  exact units_of_plain fun c hc => h.plain c (List.mem_cons_of_mem _ hc)

end Shell
