import ConnectApp.Lib.CString

/-!
# JSON texts

A JSON reader over bytes: a lexer that is a state machine (`step`, `run`), so that a
text can be read piece by piece (`run_append`), and a parser of the tokens (`value`).
A string keeps its body as written, and a number its text. A byte from 0x80 on stands
for part of a character and may occur anywhere inside a string.

The lexer's share of a string is `bodyRun`; `isBody` says which texts may stand
between two quotes. Outside of a string most bytes cannot occur (`strange`), which is
what shows that a text is *not* JSON (`lexFrom_stuck`).
-/

namespace Json

open CString

/-! ## Strings -/

/-- Inside a string: between characters, after a backslash, or with `k + 1` hex
digits of `\u` to come. -/
inductive StrMode
  | plain
  | esc
  | hex (k : Nat)
  deriving DecidableEq

/-- A hexadecimal digit. -/
def isHex (b : UInt8) : Bool :=
  isDigit b || (97 ≤ b && b ≤ 102) || (65 ≤ b && b ≤ 70)

/-- A byte inside a string that does not close it. -/
def strStep : StrMode → UInt8 → Option StrMode
  | .plain, b =>
    if b = 92 then some .esc else if b = 34 ∨ b < 32 then none else some .plain
  | .esc, b =>
    if b ∈ [34, 92, 47, 98, 102, 110, 114, 116] then some .plain
    else if b = 117 then some (.hex 3)
    else none
  | .hex 0, b => if isHex b then some .plain else none
  | .hex (k + 1), b => if isHex b then some (.hex k) else none

/-- Reads the characters of a string. -/
def bodyRun : StrMode → List UInt8 → Option StrMode
  | m, [] => some m
  | m, b :: t => (strStep m b).bind fun m' => bodyRun m' t

/-- The texts that may stand between two quotes. -/
def isBody (u : List UInt8) : Bool := bodyRun .plain u = some .plain

/-! ## Numbers and literals -/

/-- Where the lexer is in a number. -/
inductive NumMode
  | minus
  | zero
  | int
  | dot
  | frac
  | exp
  | expSign
  | expInt
  deriving DecidableEq

/-- The first character of a number. -/
def numStart (b : UInt8) : Option NumMode :=
  if b = 45 then some .minus
  else if b = 48 then some .zero
  else if isDigit b then some .int
  else none

/-- A further character of a number. -/
def numStep : NumMode → UInt8 → Option NumMode
  | .minus, b => if b = 48 then some .zero else if isDigit b then some .int else none
  | .zero, b => if b = 46 then some .dot else if b = 101 ∨ b = 69 then some .exp else none
  | .int, b =>
    if isDigit b then some .int
    else if b = 46 then some .dot
    else if b = 101 ∨ b = 69 then some .exp
    else none
  | .dot, b => if isDigit b then some .frac else none
  | .frac, b =>
    if isDigit b then some .frac else if b = 101 ∨ b = 69 then some .exp else none
  | .exp, b =>
    if b = 43 ∨ b = 45 then some .expSign else if isDigit b then some .expInt else none
  | .expSign, b => if isDigit b then some .expInt else none
  | .expInt, b => if isDigit b then some .expInt else none

/-- A number may end here. -/
def NumMode.accepting : NumMode → Bool
  | .zero => true
  | .int => true
  | .frac => true
  | .expInt => true
  | _ => false

/-- The three literals. -/
inductive Lit
  | true
  | false
  | null
  deriving DecidableEq

/-! ## The lexer -/

/-- The tokens of a text. -/
inductive Token
  | openObj
  | closeObj
  | openArr
  | closeArr
  | comma
  | colon
  | str (body : List UInt8)
  | num (text : List UInt8)
  | lit (l : Lit)
  deriving DecidableEq

/-- Between tokens, in a string with its body so far, in a number with its text so
far, or in a literal with the letters to come. -/
inductive Mode
  | top
  | str (m : StrMode) (body : List UInt8)
  | num (m : NumMode) (text : List UInt8)
  | lit (l : Lit) (rest : List UInt8)
  deriving DecidableEq

/-- What is being read, and the tokens before it. -/
structure LexState where
  mode : Mode
  toks : List Token
  deriving DecidableEq

/-- White space. -/
def isWs (b : UInt8) : Bool := b = 32 || b = 9 || b = 10 || b = 13

/-- The tokens of one character. -/
def punct (b : UInt8) : Option Token :=
  if b = 123 then some .openObj
  else if b = 125 then some .closeObj
  else if b = 91 then some .openArr
  else if b = 93 then some .closeArr
  else if b = 44 then some .comma
  else if b = 58 then some .colon
  else none

/-- The literal a letter starts, and the letters to come. -/
def litStart (b : UInt8) : Option (Lit × List UInt8) :=
  if b = 116 then some (.true, chars "rue")
  else if b = 102 then some (.false, chars "alse")
  else if b = 110 then some (.null, chars "ull")
  else none

/-- A byte between two tokens. -/
def topStep (toks : List Token) (b : UInt8) : Option LexState :=
  if isWs b then some ⟨.top, toks⟩
  else if b = 34 then some ⟨.str .plain [], toks⟩
  else
    match punct b, litStart b, numStart b with
    | some t, _, _ => some ⟨.top, toks ++ [t]⟩
    | none, some (l, rest), _ => some ⟨.lit l rest, toks⟩
    | none, none, some m => some ⟨.num m [b], toks⟩
    | none, none, none => none

/-- Reads one character. -/
def step (st : LexState) (b : UInt8) : Option LexState :=
  match st.mode with
  | .top => topStep st.toks b
  | .str m body =>
    if m = .plain ∧ b = 34 then some ⟨.top, st.toks ++ [.str body]⟩
    else (strStep m b).map fun m' => ⟨.str m' (body ++ [b]), st.toks⟩
  | .num m text =>
    match numStep m b with
    | some m' => some ⟨.num m' (text ++ [b]), st.toks⟩
    | none => if m.accepting then topStep (st.toks ++ [.num text]) b else none
  | .lit l rest =>
    match rest with
    | [] => none
    | c :: rest' =>
      if b = c then
        if rest' = [] then some ⟨.top, st.toks ++ [.lit l]⟩ else some ⟨.lit l rest', st.toks⟩
      else none

/-- Reads a text. -/
def run : LexState → List UInt8 → Option LexState
  | st, [] => some st
  | st, b :: t => (step st b).bind fun st' => run st' t

/-- The tokens at the end of a text. -/
def finish (st : LexState) : Option (List Token) :=
  match st.mode with
  | .top => some st.toks
  | .num m text => if m.accepting then some (st.toks ++ [.num text]) else none
  | _ => none

/-- The tokens of a text, read from a state on. -/
def lexFrom (st : LexState) (t : List UInt8) : Option (List Token) := (run st t).bind finish

/-- The tokens of a text. -/
def lex (t : List UInt8) : Option (List Token) := lexFrom ⟨.top, []⟩ t

/-! ## The parser -/

/-- The values, with strings and numbers as they are written. -/
inductive Value
  | str (body : List UInt8)
  | num (text : List UInt8)
  | lit (l : Lit)
  | arr (elems : List Value)
  | obj (members : List (List UInt8 × Value))

mutual

/-- A value at the front of a token list, and the tokens behind it. -/
def value : Nat → List Token → Option (Value × List Token)
  | 0, _ => none
  | _ + 1, .str b :: ts => some (.str b, ts)
  | _ + 1, .num t :: ts => some (.num t, ts)
  | _ + 1, .lit l :: ts => some (.lit l, ts)
  | _ + 1, .openArr :: .closeArr :: ts => some (.arr [], ts)
  | fuel + 1, .openArr :: ts => (elements fuel ts).map fun p => (.arr p.1, p.2)
  | _ + 1, .openObj :: .closeObj :: ts => some (.obj [], ts)
  | fuel + 1, .openObj :: ts => (members fuel ts).map fun p => (.obj p.1, p.2)
  | _ + 1, _ => none

/-- The elements of a non-empty array up to its bracket. -/
def elements : Nat → List Token → Option (List Value × List Token)
  | 0, _ => none
  | fuel + 1, ts =>
    match value fuel ts with
    | some (v, .closeArr :: ts') => some ([v], ts')
    | some (v, .comma :: ts') => (elements fuel ts').map fun p => (v :: p.1, p.2)
    | _ => none

/-- The members of a non-empty object up to its brace. -/
def members : Nat → List Token → Option (List (List UInt8 × Value) × List Token)
  | 0, _ => none
  | fuel + 1, .str key :: .colon :: ts =>
    match value fuel ts with
    | some (v, .closeObj :: ts') => some ([(key, v)], ts')
    | some (v, .comma :: ts') => (members fuel ts').map fun p => ((key, v) :: p.1, p.2)
    | _ => none
  | _ + 1, _ => none

end

/-- A token list is parsed with two units of fuel for each token: a value, and the
list it is in. -/
def parseTokens (ts : List Token) : Option Value :=
  match value (2 * ts.length + 2) ts with
  | some (v, []) => some v
  | _ => none

/-- Reads one value, and nothing behind it. -/
def parse (t : List UInt8) : Option Value := (lex t).bind parseTokens

/-! ## Fuel -/

theorem value_arr {ts : List Token} (h : ts.head? ≠ some .closeArr) (n : Nat) :
    value (n + 1) (.openArr :: ts) = (elements n ts).map fun p => (.arr p.1, p.2) := by
  cases ts with
  | nil => rfl
  | cons t ts =>
    cases t with
    | closeArr => exact absurd rfl h
    | _ => rfl

theorem value_obj {ts : List Token} (h : ts.head? ≠ some .closeObj) (n : Nat) :
    value (n + 1) (.openObj :: ts) = (members n ts).map fun p => (.obj p.1, p.2) := by
  cases ts with
  | nil => rfl
  | cons t ts =>
    cases t with
    | closeObj => exact absurd rfl h
    | _ => rfl

theorem elements_of_none {n : Nat} {ts : List Token} (h : value n ts = none) :
    elements (n + 1) ts = none := by
  rw [elements, h]

/-- What is parsed is parsed with more fuel as well. -/
theorem parser_succ (n : Nat) :
    (∀ ts r, value n ts = some r → value (n + 1) ts = some r) ∧
    (∀ ts r, elements n ts = some r → elements (n + 1) ts = some r) ∧
    ∀ ts r, members n ts = some r → members (n + 1) ts = some r := by
  induction n with
  | zero =>
    refine ⟨fun ts r h => ?_, fun ts r h => ?_, fun ts r h => ?_⟩
    · rw [value] at h
      cases h
    · rw [elements] at h
      cases h
    · rw [members] at h
      cases h
  | succ n ih =>
    obtain ⟨ihv, ihe, ihm⟩ := ih
    refine ⟨fun ts r h => ?_, fun ts r h => ?_, fun ts r h => ?_⟩
    · cases ts with
      | nil => exact h
      | cons t ts =>
        cases t with
        | openArr =>
          by_cases hts : ts.head? = some .closeArr
          · obtain ⟨ts', rfl⟩ := List.head?_eq_some_iff.mp hts
            exact h
          · rw [value_arr hts] at h ⊢
            obtain ⟨p, hp, hr⟩ := Option.map_eq_some_iff.mp h
            rw [ihe ts p hp, ← hr]
            rfl
        | openObj =>
          by_cases hts : ts.head? = some .closeObj
          · obtain ⟨ts', rfl⟩ := List.head?_eq_some_iff.mp hts
            exact h
          · rw [value_obj hts] at h ⊢
            obtain ⟨p, hp, hr⟩ := Option.map_eq_some_iff.mp h
            rw [ihm ts p hp, ← hr]
            rfl
        | _ => exact h
    · rw [elements] at h ⊢
      cases hv : value n ts with
      | none =>
        rw [hv] at h
        cases h
      | some q =>
        rw [hv] at h
        rw [ihv ts q hv]
        obtain ⟨v, _ | ⟨t, ts'⟩⟩ := q
        · exact h
        · cases t with
          | comma =>
            obtain ⟨p, hp, hr⟩ := Option.map_eq_some_iff.mp h
            show (elements (n + 1) ts').map _ = _
            rw [ihe ts' p hp, ← hr]
            rfl
          | _ => exact h
    · match ts, h with
      | .str key :: .colon :: ts, h =>
        rw [members] at h ⊢
        cases hv : value n ts with
        | none =>
          rw [hv] at h
          cases h
        | some q =>
          rw [hv] at h
          rw [ihv ts q hv]
          obtain ⟨v, _ | ⟨t, ts'⟩⟩ := q
          · exact h
          · cases t with
            | comma =>
              obtain ⟨p, hp, hr⟩ := Option.map_eq_some_iff.mp h
              show (members (n + 1) ts').map _ = _
              rw [ihm ts' p hp, ← hr]
              rfl
            | _ => exact h

theorem value_add {n : Nat} {ts : List Token} {r : Value × List Token} (h : value n ts = some r)
    (k : Nat) : value (n + k) ts = some r := by
  induction k with
  | zero => exact h
  | succ k ih => exact (parser_succ (n + k)).1 ts r ih

/-- Two amounts of fuel that are enough give the same value. -/
theorem value_none_or {n : Nat} {ts : List Token} {o : Option (Value × List Token)}
    (h : ∀ m, value (m + n) ts = o) (m : Nat) : value m ts = none ∨ value m ts = o := by
  cases hv : value m ts with
  | none => exact .inl rfl
  | some r => exact .inr ((value_add hv n).symm.trans (h m))

/-! ## Reading a text piece by piece -/

theorem run_append (st : LexState) (u v : List UInt8) :
    run st (u ++ v) = (run st u).bind fun st' => run st' v := by
  induction u generalizing st with
  | nil => rfl
  | cons b u ih =>
    rw [List.cons_append, run, run, Option.bind_assoc]
    congr 1
    funext st'
    exact ih st'

theorem run_trans {st st₁ st₂ : LexState} {u v : List UInt8} (hu : run st u = some st₁)
    (hv : run st₁ v = some st₂) : run st (u ++ v) = some st₂ := by
  rw [run_append, hu]
  exact hv

theorem lexFrom_append (st : LexState) (u v : List UInt8) :
    lexFrom st (u ++ v) = (run st u).bind fun st' => lexFrom st' v := by
  unfold lexFrom
  rw [run_append, Option.bind_assoc]

theorem lexFrom_of_run {st st' : LexState} {u : List UInt8} (h : run st u = some st')
    (v : List UInt8) : lexFrom st (u ++ v) = lexFrom st' v := by
  rw [lexFrom_append, h]
  rfl

theorem lexFrom_cons (st : LexState) (b : UInt8) (t : List UInt8) :
    lexFrom st (b :: t) = (step st b).bind fun st' => lexFrom st' t := by
  unfold lexFrom
  rw [run, Option.bind_assoc]

/-- Between two tokens a punctuation character is a token. -/
theorem step_punct {b : UInt8} {t : Token} (h : punct b = some t) (toks : List Token) :
    step ⟨.top, toks⟩ b = some ⟨.top, toks ++ [t]⟩ := by
  unfold punct at h
  split_ifs at h with h1 h2 h3 h4 h5 h6 <;> · cases h; subst b; rfl

theorem run_punct {b : UInt8} {t : Token} (h : punct b = some t) (toks : List Token) :
    run ⟨.top, toks⟩ [b] = some ⟨.top, toks ++ [t]⟩ := by
  rw [run, step_punct h]
  rfl

theorem lexFrom_punct {b : UInt8} {t : Token} (h : punct b = some t) (toks : List Token)
    (u : List UInt8) : lexFrom ⟨.top, toks⟩ (b :: u) = lexFrom ⟨.top, toks ++ [t]⟩ u := by
  rw [lexFrom_cons, step_punct h]
  rfl

/-- A byte inside a string is read by `strStep`. -/
theorem step_str {m m' : StrMode} {b : UInt8} (h : strStep m b = some m')
    (body : List UInt8) (toks : List Token) :
    step ⟨.str m body, toks⟩ b = some ⟨.str m' (body ++ [b]), toks⟩ := by
  have hq : ¬ (m = .plain ∧ b = 34) := by
    rintro ⟨rfl, rfl⟩
    cases h
  show (if m = .plain ∧ b = 34 then _ else _) = _
  rw [if_neg hq, h]
  rfl

theorem run_body {m m' : StrMode} {u : List UInt8} (h : bodyRun m u = some m')
    (body : List UInt8) (toks : List Token) :
    run ⟨.str m body, toks⟩ u = some ⟨.str m' (body ++ u), toks⟩ := by
  induction u generalizing m body with
  | nil =>
    cases h
    rw [List.append_nil]
    rfl
  | cons b u ih =>
    obtain ⟨m₁, hb, hu⟩ := Option.bind_eq_some_iff.mp h
    rw [run, step_str hb]
    show run ⟨.str m₁ (body ++ [b]), toks⟩ u = _
    rw [ih hu, List.append_assoc]
    rfl

theorem run_string {u : List UInt8} (h : isBody u = true) (toks : List Token) :
    run ⟨.top, toks⟩ (34 :: u ++ [34]) = some ⟨.top, toks ++ [Token.str u]⟩ := by
  have hbody : bodyRun .plain u = some .plain := of_decide_eq_true h
  have hopen : step ⟨.top, toks⟩ 34 = some ⟨.str .plain [], toks⟩ := rfl
  rw [List.cons_append, run, hopen, Option.bind_some, run_append, run_body hbody]
  rfl

theorem run_digits {ds : List UInt8} (h : ∀ b ∈ ds, isDigit b = true) (text : List UInt8)
    (toks : List Token) :
    run ⟨.num .int text, toks⟩ ds = some ⟨.num .int (text ++ ds), toks⟩ := by
  induction ds generalizing text with
  | nil =>
    rw [List.append_nil]
    rfl
  | cons b ds ih =>
    have hb : numStep .int b = some .int := if_pos (h b (List.mem_cons_self ..))
    have hstep : step ⟨.num .int text, toks⟩ b = some ⟨.num .int (text ++ [b]), toks⟩ := by
      show (match numStep .int b with | some m' => _ | none => _) = _
      rw [hb]
    rw [run, hstep, Option.bind_some, ih fun c hc => h c (List.mem_cons_of_mem _ hc),
      List.append_assoc]
    rfl

/-- The digits of a number after its sign. -/
theorem run_natDec (n : Nat) (toks : List Token) :
    ∃ m, (m = .zero ∨ m = .int) ∧
      run ⟨.top, toks⟩ (natDec n) = some ⟨.num m (natDec n), toks⟩ ∧
      run ⟨.num .minus [45], toks⟩ (natDec n) = some ⟨.num m (45 :: natDec n), toks⟩ := by
  have hds := natDec_digits n
  obtain ⟨d, rest, hcons, hzero⟩ := hds.head
  rw [hcons] at hds ⊢
  have hd : isDigit d = true := hds.digits d (List.mem_cons_self ..)
  by_cases h48 : d = 48
  · obtain ⟨rfl, -⟩ := hzero h48
    subst h48
    exact ⟨.zero, .inl rfl, rfl, rfl⟩
  · have htop : ∀ d, isDigit d = true → d ≠ 48 → topStep toks d = some ⟨.num .int [d], toks⟩ := by
      intro d hd h48
      have hne : ∀ d, isDigit d = true → d ≠ 48 → isWs d = false ∧ d ≠ 34 ∧ punct d = none ∧
          litStart d = none ∧ numStart d = some .int := by decide +kernel
      obtain ⟨hws, hq, hp, hl, hn⟩ := hne d hd h48
      unfold topStep
      rw [hws, if_neg (by simp), if_neg hq, hp, hl, hn]
    have hminus : step ⟨.num .minus [45], toks⟩ d = some ⟨.num .int [45, d], toks⟩ := by
      show (match numStep .minus d with | some m' => _ | none => _) = _
      rw [show numStep .minus d = some .int by simp [numStep, h48, hd]]
      rfl
    have hrest := run_digits (fun c hc => hds.digits c (List.mem_cons_of_mem _ hc))
    refine ⟨.int, .inr rfl, ?_, ?_⟩
    · rw [run, show step ⟨.top, toks⟩ d = _ from htop d hd h48, Option.bind_some, hrest]
      rfl
    · rw [run, hminus, Option.bind_some, hrest]
      rfl

/-- A decimal number ended by a comma. -/
theorem run_decimal (z : Int) (toks : List Token) :
    run ⟨.top, toks⟩ (decimal z ++ [44]) =
      some ⟨.top, toks ++ [Token.num (decimal z), .comma]⟩ := by
  obtain ⟨m, hm, htop, hminus⟩ := run_natDec z.natAbs toks
  have hcomma : ∀ text, run ⟨.num m text, toks⟩ [44]
      = some ⟨.top, toks ++ [Token.num text, .comma]⟩ := by
    intro text
    rcases hm with rfl | rfl
    · show some (LexState.mk .top (toks ++ [Token.num text] ++ [Token.comma])) = _
      rw [List.append_assoc]
      rfl
    · show some (LexState.mk .top (toks ++ [Token.num text] ++ [Token.comma])) = _
      rw [List.append_assoc]
      rfl
  rw [run_append]
  unfold decimal
  split_ifs
  · have hsign : step ⟨.top, toks⟩ 45 = some ⟨.num .minus [45], toks⟩ := rfl
    rw [run, hsign, Option.bind_some, hminus, Option.bind_some, hcomma]
  · rw [htop, Option.bind_some, hcomma]

/-! ## Tokens stay -/

/-- What a byte between two tokens can do. -/
theorem topStep_cases {toks : List Token} {b : UInt8} {st : LexState}
    (h : topStep toks b = some st) :
    st = ⟨.top, toks⟩ ∨ (b = 34 ∧ st = ⟨.str .plain [], toks⟩) ∨
      (∃ t, st = ⟨.top, toks ++ [t]⟩) ∨
      (∃ l rest, litStart b = some (l, rest) ∧ st = ⟨.lit l rest, toks⟩) ∨
      ∃ m, st = ⟨.num m [b], toks⟩ := by
  unfold topStep at h
  split_ifs at h with hws hq
  · exact .inl (Option.some.inj h).symm
  · exact .inr (.inl ⟨hq, (Option.some.inj h).symm⟩)
  · split at h
    · exact .inr (.inr (.inl ⟨_, (Option.some.inj h).symm⟩))
    · exact .inr (.inr (.inr (.inl ⟨_, _, by assumption, (Option.some.inj h).symm⟩)))
    · exact .inr (.inr (.inr (.inr ⟨_, (Option.some.inj h).symm⟩)))
    · cases h

theorem topStep_toks {toks : List Token} {b : UInt8} {st : LexState}
    (h : topStep toks b = some st) : toks <+: st.toks := by
  rcases topStep_cases h with rfl | ⟨-, rfl⟩ | ⟨t, rfl⟩ | ⟨l, rest, -, rfl⟩ | ⟨m, rfl⟩
  · exact List.prefix_rfl
  · exact List.prefix_rfl
  · exact List.prefix_append _ _
  · exact List.prefix_rfl
  · exact List.prefix_rfl

theorem step_toks {st st' : LexState} {b : UInt8} (h : step st b = some st') :
    st.toks <+: st'.toks := by
  obtain ⟨mode, toks⟩ := st
  cases mode with
  | top => exact topStep_toks h
  | str m body =>
    change (if m = .plain ∧ b = 34 then some (LexState.mk .top (toks ++ [Token.str body]))
      else (strStep m b).map fun m' => LexState.mk (.str m' (body ++ [b])) toks) = some st' at h
    split_ifs at h
    · obtain rfl := Option.some.inj h
      exact List.prefix_append _ _
    · obtain ⟨m', -, rfl⟩ := Option.map_eq_some_iff.mp h
      exact List.prefix_rfl
  | num m text =>
    change (match numStep m b with
      | some m' => some (LexState.mk (.num m' (text ++ [b])) toks)
      | none => if m.accepting then topStep (toks ++ [Token.num text]) b else none) = some st' at h
    cases hm : numStep m b with
    | some m' =>
      rw [hm] at h
      obtain rfl := Option.some.inj h
      exact List.prefix_rfl
    | none =>
      rw [hm] at h
      simp only at h
      split_ifs at h
      exact (List.prefix_append _ _).trans (topStep_toks h)
  | lit l rest =>
    cases rest with
    | nil => cases h
    | cons c rest =>
      change (if b = c then
        if rest = [] then some (LexState.mk .top (toks ++ [Token.lit l]))
        else some (LexState.mk (.lit l rest) toks) else none) = some st' at h
      split_ifs at h
      · obtain rfl := Option.some.inj h
        exact List.prefix_append _ _
      · obtain rfl := Option.some.inj h
        exact List.prefix_rfl

theorem run_toks {st st' : LexState} {t : List UInt8} (h : run st t = some st') :
    st.toks <+: st'.toks := by
  induction t generalizing st with
  | nil =>
    cases h
    exact List.prefix_rfl
  | cons b t ih =>
    obtain ⟨st₁, hb, ht⟩ := Option.bind_eq_some_iff.mp h
    exact (step_toks hb).trans (ih ht)

theorem lexFrom_toks {st : LexState} {t : List UInt8} {ts : List Token}
    (h : lexFrom st t = some ts) : st.toks <+: ts := by
  obtain ⟨⟨mode, toks⟩, hrun, hfin⟩ := Option.bind_eq_some_iff.mp h
  refine (run_toks hrun).trans ?_
  cases mode with
  | top =>
    obtain rfl := Option.some.inj hfin
    exact List.prefix_rfl
  | str m body => cases hfin
  | num m text =>
    change (if m.accepting then some (toks ++ [Token.num text]) else none) = some ts at hfin
    split_ifs at hfin
    obtain rfl := Option.some.inj hfin
    exact List.prefix_append _ _
  | lit l rest => cases hfin

/-! ## Texts that are not JSON -/

/-- Bytes that can only occur inside a string. -/
def strange (b : UInt8) : Bool := b = 92 || 0x80 ≤ b || b = 63

/-- Not inside a string, and the letters of a literal are ordinary. -/
def Mode.Outside : Mode → Prop
  | .top => True
  | .str _ _ => False
  | .num _ _ => True
  | .lit _ rest => ∀ c ∈ rest, strange c = false ∧ c ≠ 34

theorem topStep_strange {b : UInt8} (h : strange b = true) (toks : List Token) :
    topStep toks b = none := by
  have hne : ∀ b, strange b = true →
      isWs b = false ∧ b ≠ 34 ∧ punct b = none ∧ litStart b = none ∧ numStart b = none := by
    decide +kernel
  obtain ⟨hws, hq, hp, hl, hn⟩ := hne b h
  unfold topStep
  rw [hws, if_neg (by simp), if_neg hq, hp, hl, hn]

theorem numStep_strange (m : NumMode) {b : UInt8} (h : strange b = true) :
    numStep m b = none := by
  have hne : isDigit b = false ∧ b ≠ 48 ∧ b ≠ 46 ∧ b ≠ 101 ∧ b ≠ 69 ∧ b ≠ 43 ∧ b ≠ 45 := by
    simp [isDigit, strange, UInt8.le_iff_toNat_le, ← UInt8.toNat_inj] at h ⊢
    omega
  obtain ⟨h0, h1, h2, h3, h4, h5, h6⟩ := hne
  cases m <;> simp [numStep, *]

theorem step_strange {st : LexState} {b : UInt8} (hst : st.mode.Outside)
    (hb : strange b = true) : step st b = none := by
  obtain ⟨mode, toks⟩ := st
  cases mode with
  | top => exact topStep_strange hb toks
  | str m body => exact absurd hst id
  | num m text =>
    show (match numStep m b with | some m' => _ | none => _) = _
    rw [numStep_strange m hb, topStep_strange hb]
    exact ite_self none
  | lit l rest =>
    cases rest with
    | nil => rfl
    | cons c rest =>
      have hc : b ≠ c := by
        rintro rfl
        have := (hst b (List.mem_cons_self ..)).1
        rw [hb] at this
        cases this
      exact if_neg hc

theorem litStart_outside {b : UInt8} {l : Lit} {rest : List UInt8}
    (h : litStart b = some (l, rest)) : (Mode.lit l rest).Outside := by
  unfold litStart at h
  show ∀ c ∈ rest, strange c = false ∧ c ≠ 34
  split_ifs at h
  all_goals
    obtain ⟨-, rfl⟩ := Prod.mk.inj (Option.some.inj h)
    refine fun c hc => of_decide_eq_true (p := strange c = false ∧ c ≠ 34) ?_
    revert c
    exact List.all_eq_true.mp (by decide)

/-- Without a quote the lexer stays outside of strings. -/
theorem topStep_outside {b : UInt8} {toks : List Token} {st : LexState} (hb : b ≠ 34)
    (h : topStep toks b = some st) : st.mode.Outside := by
  rcases topStep_cases h with rfl | ⟨hq, -⟩ | ⟨t, rfl⟩ | ⟨l, rest, hl, rfl⟩ | ⟨m, rfl⟩
  · trivial
  · exact absurd hq hb
  · trivial
  · exact litStart_outside hl
  · trivial

theorem step_outside {st st' : LexState} {b : UInt8} (hst : st.mode.Outside) (hb : b ≠ 34)
    (h : step st b = some st') : st'.mode.Outside := by
  obtain ⟨mode, toks⟩ := st
  cases mode with
  | top => exact topStep_outside hb h
  | str m body => exact absurd hst id
  | num m text =>
    change (match numStep m b with
      | some m' => some (LexState.mk (.num m' (text ++ [b])) toks)
      | none => if m.accepting then topStep (toks ++ [Token.num text]) b else none) = some st' at h
    cases hm : numStep m b with
    | some m' =>
      rw [hm] at h
      obtain rfl := Option.some.inj h
      trivial
    | none =>
      rw [hm] at h
      simp only at h
      split_ifs at h
      exact topStep_outside hb h
  | lit l rest =>
    cases rest with
    | nil => cases h
    | cons c rest =>
      change (if b = c then
        if rest = [] then some (LexState.mk .top (toks ++ [Token.lit l]))
        else some (LexState.mk (.lit l rest) toks) else none) = some st' at h
      split_ifs at h
      · obtain rfl := Option.some.inj h
        trivial
      · obtain rfl := Option.some.inj h
        exact fun d hd => hst d (List.mem_cons_of_mem _ hd)

/-- Outside of a string a quote is an error or opens one. -/
theorem step_quote {st st' : LexState} (hst : st.mode.Outside) (h : step st 34 = some st') :
    ∃ toks, st' = ⟨.str .plain [], toks⟩ := by
  obtain ⟨mode, toks⟩ := st
  cases mode with
  | top => exact ⟨toks, (Option.some.inj h).symm⟩
  | str m body => exact absurd hst id
  | num m text =>
    have hm : numStep m 34 = none := by cases m <;> rfl
    change (match numStep m 34 with
      | some m' => some (LexState.mk (.num m' (text ++ [34])) toks)
      | none => if m.accepting then topStep (toks ++ [Token.num text]) 34 else none) = some st' at h
    rw [hm] at h
    simp only at h
    split_ifs at h
    exact ⟨_, (Option.some.inj h).symm⟩
  | lit l rest =>
    cases rest with
    | nil => cases h
    | cons c rest =>
      have hc : ¬ 34 = c := fun hc => (hst c (List.mem_cons_self ..)).2 hc.symm
      change (if 34 = c then _ else none) = some st' at h
      rw [if_neg hc] at h
      cases h

theorem run_outside {st st' : LexState} {w : List UInt8} (hst : st.mode.Outside) (hw : 34 ∉ w)
    (h : run st w = some st') : st'.mode.Outside ∧ ∀ b ∈ w, strange b = false := by
  induction w generalizing st with
  | nil =>
    cases h
    exact ⟨hst, by simp⟩
  | cons b w ih =>
    rw [List.mem_cons, not_or] at hw
    obtain ⟨st₁, hb, hrest⟩ := Option.bind_eq_some_iff.mp h
    have hstr : strange b = false := by
      by_contra hs
      rw [step_strange hst (by simpa using hs)] at hb
      cases hb
    obtain ⟨hout, hall⟩ := ih (step_outside hst (fun h34 => hw.1 h34.symm) hb) hw.2 hrest
    exact ⟨hout, List.forall_mem_cons.mpr ⟨hstr, hall⟩⟩

/-- A string that goes wrong is an error on the spot, or it is closed early. -/
theorem run_badBody {m : StrMode} {u : List UInt8} (h : bodyRun m u = none) :
    (∀ body toks, run ⟨.str m body, toks⟩ u = none) ∨
      ∃ p w, u = p ++ 34 :: w ∧ bodyRun m p = some .plain := by
  induction u generalizing m with
  | nil => cases h
  | cons b u ih =>
    by_cases hq : m = .plain ∧ b = 34
    · obtain ⟨rfl, rfl⟩ := hq
      exact .inr ⟨[], u, rfl, rfl⟩
    · rw [bodyRun] at h
      cases hb : strStep m b with
      | none =>
        refine .inl fun body toks => ?_
        have hstep : step ⟨.str m body, toks⟩ b = none := by
          show (if m = .plain ∧ b = 34 then _ else _) = _
          rw [if_neg hq, hb]
          rfl
        rw [run, hstep]
        rfl
      | some m' =>
        rw [hb] at h
        rcases ih h with hrun | ⟨p, w, rfl, hp⟩
        · refine .inl fun body toks => ?_
          rw [run, step_str hb]
          exact hrun _ _
        · refine .inr ⟨b :: p, w, rfl, ?_⟩
          rw [bodyRun, hb]
          exact hp

/-- Between two quotes of a text there is a strange byte; `seen` says that there was
one since the last quote. -/
def apart : Bool → List UInt8 → Bool
  | _, [] => true
  | seen, b :: t => if b = 34 then seen && apart false t else apart (seen || strange b) t

theorem apart_mono {t : List UInt8} (h : apart false t = true) (seen : Bool) :
    apart seen t = true := by
  cases seen with
  | false => exact h
  | true =>
    induction t with
    | nil => rfl
    | cons b t ih =>
      rw [apart] at h ⊢
      split_ifs at h with hb
      · cases h
      · rw [if_neg hb, Bool.true_or]
        cases hs : strange b with
        | false =>
          rw [hs] at h
          exact ih h
        | true =>
          rw [hs] at h
          exact h

theorem apart_behind {seen : Bool} {p w : List UInt8} (h : apart seen (p ++ 34 :: w) = true) :
    apart false w = true := by
  induction p generalizing seen with
  | nil =>
    rw [List.nil_append, apart, if_pos rfl, Bool.and_eq_true] at h
    exact h.2
  | cons b p ih =>
    rw [List.cons_append, apart] at h
    split_ifs at h
    · rw [Bool.and_eq_true] at h
      exact ih h.2
    · exact ih h

theorem apart_first {seen : Bool} {q r : List UInt8} (h : apart seen (q ++ 34 :: r) = true)
    (hq : 34 ∉ q) : seen = true ∨ ∃ b ∈ q, strange b = true := by
  induction q generalizing seen with
  | nil =>
    rw [List.nil_append, apart, if_pos rfl, Bool.and_eq_true] at h
    exact .inl h.1
  | cons b q ih =>
    rw [List.mem_cons, not_or] at hq
    rw [List.cons_append, apart, if_neg fun h34 => hq.1 h34.symm] at h
    rcases ih h hq.2 with hs | ⟨c, hc, hs⟩
    · rcases Bool.or_eq_true _ _ |>.mp hs with hs | hs
      · exact .inl hs
      · exact .inr ⟨b, List.mem_cons_self .., hs⟩
    · exact .inr ⟨c, List.mem_cons_of_mem _ hc, hs⟩

/-- Once outside of strings, a text whose quotes are apart reaches its final quote
inside of none, or not at all. -/
theorem lexFrom_apart {st : LexState} {w t : List UInt8} (hst : st.mode.Outside)
    (hw : apart false w = true)
    (ht : ∀ body toks, lexFrom ⟨.str .plain body, toks⟩ t = none) :
    lexFrom st (w ++ 34 :: t) = none := by
  by_cases hq : 34 ∈ w
  · obtain ⟨q, r, rfl, hq'⟩ := List.eq_append_cons_of_mem hq
    obtain ⟨b, hb, hs⟩ := (apart_first hw hq').resolve_left (by simp)
    rw [List.append_assoc, lexFrom_append]
    cases hrun : run st q with
    | none => rfl
    | some st' =>
      have := (run_outside hst hq' hrun).2 b hb
      rw [hs] at this
      cases this
  · rw [lexFrom_append]
    cases hrun : run st w with
    | none => rfl
    | some st' =>
      rw [Option.bind_some, lexFrom_cons]
      cases hstep : step st' 34 with
      | none => rfl
      | some st'' =>
        obtain ⟨toks, rfl⟩ := step_quote (run_outside hst hq hrun).1 hstep
        exact ht [] toks

/-- **Stuck strings.** A text that is no string body, whose quotes are apart, and
whose closing quote is followed by a text that cannot be read from inside a string
either, does not lex. -/
theorem lexFrom_stuck {u t : List UInt8} (hu : isBody u = false) (hapart : apart false u = true)
    (ht : ∀ body toks, lexFrom ⟨.str .plain body, toks⟩ t = none)
    (body : List UInt8) (toks : List Token) :
    lexFrom ⟨.str .plain body, toks⟩ (u ++ 34 :: t) = none := by
  cases hrun : bodyRun .plain u with
  | some m =>
    rw [lexFrom_append, run_body hrun, Option.bind_some, lexFrom_cons]
    cases m with
    | plain => exact absurd hrun (of_decide_eq_false hu)
    | esc => exact ht _ _
    | hex k => cases k <;> rfl
  | none =>
    rcases run_badBody hrun with hnone | ⟨p, w, rfl, hp⟩
    · rw [lexFrom_append, hnone]
      rfl
    · rw [List.append_assoc, lexFrom_append, run_body hp, Option.bind_some, List.cons_append,
        lexFrom_cons]
      exact lexFrom_apart trivial (apart_behind hapart) ht

end Json
