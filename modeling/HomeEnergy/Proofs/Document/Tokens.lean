import HomeEnergy.Proofs.Document.Double

/-!
# The tokens of written documents

A document is written token by token, and its text is cut into these tokens again. Strings come back
as they were, and so do whole numbers of at most 64 bits. A double that is finite may come back as
another double, and one that is not comes back as the null.

## Main results

* `Json.stringBody_escape` — strings come back as they were.
* `Json.cuts_write` — the text of a document consists of its tokens, whatever stands behind it.
* `Json.tokens_write` — the tokens of the text of a document.
-/

namespace HomeEnergy

namespace Document

mutual

/-- What a document becomes when it is written and read again. -/
def again : Document → Document
  | float x =>
    match Float.again x with
    | some y => float y
    | none => null
  | list items => list (againItems items)
  | map members => map (againMembers members)
  | d => d

/-- What the items of a list become. -/
def againItems : List Document → List Document
  | [] => []
  | d :: rest => d.again :: againItems rest

/-- What the members of a map become. -/
def againMembers : List (String × Document) → List (String × Document)
  | [] => []
  | (key, d) :: rest => (key, d.again) :: againMembers rest

end

mutual

/-- Whether all whole numbers fit into 64 bits, with or without sign, and lists and maps are nested
at most so deep. -/
def fits : Nat → Document → Bool
  | _, int n => -(Numeral.wordLimit / 2 : Nat) ≤ n ∧ n < Numeral.wordLimit
  | depth, list items => 0 < depth && fitsItems (depth - 1) items
  | depth, map members => 0 < depth && fitsMembers (depth - 1) members
  | _, _ => true

/-- `fits` for the items of a list. -/
def fitsItems : Nat → List Document → Bool
  | _, [] => true
  | depth, d :: rest => fits depth d && fitsItems depth rest

/-- `fits` for the members of a map. -/
def fitsMembers : Nat → List (String × Document) → Bool
  | _, [] => true
  | depth, (_, d) :: rest => fits depth d && fitsMembers depth rest

end

end Document

namespace Json

/-! ## Strings -/

theorem hexValue?_hexDigit : ∀ n : Fin 16, hexValue? (hexDigit n) = some n.1 := by decide

/-- A character written by its number is read by its number. -/
theorem numberedEscape?_control {n : Nat} (h : n < 32) (rest : List Char) :
    numberedEscape? ('0' :: '0' :: hexDigit (n / 16) :: hexDigit (n % 16) :: rest)
      = some (Char.ofNat n, rest) := by
  have hhigh := hexValue?_hexDigit ⟨n / 16, by omega⟩
  have hlow := hexValue?_hexDigit ⟨n % 16, by omega⟩
  have hzero : hexValue? '0' = some 0 := rfl
  have hfour : fourHex? ('0' :: '0' :: hexDigit (n / 16) :: hexDigit (n % 16) :: rest)
      = some (n, rest) := by
    simp only [fourHex?, hzero, hhigh, hlow, Option.bind_eq_bind, Option.bind_some]
    congr 2
    omega
  unfold numberedEscape?
  rw [hfour]
  show (if 0xD800 ≤ n ∧ n ≤ 0xDBFF then _ else _) = _
  rw [if_neg (by omega), if_neg (by omega)]

/-- The rest of a string, with one more character in front. -/
def before (c : Char) (string : Option (List Char × List Char)) :
    Option (List Char × List Char) := do
  let (body, text) ← string
  return (c :: body, text)

theorem stringBody_simple {e c : Char} (he : e ≠ 'u') (hc : simpleEscape? e = some c) (fuel : Nat)
    (rest : List Char) :
    stringBody (fuel + 1) ('\\' :: e :: rest) = before c (stringBody fuel rest) := by
  rw [stringBody, if_neg (by decide), if_pos rfl]
  dsimp only
  rw [if_neg he, hc]
  rfl

theorem stringBody_numbered {c : Char} {text rest : List Char}
    (h : numberedEscape? text = some (c, rest)) (fuel : Nat) :
    stringBody (fuel + 1) ('\\' :: 'u' :: text) = before c (stringBody fuel rest) := by
  rw [stringBody, if_neg (by decide), if_pos rfl]
  dsimp only
  rw [if_pos rfl, h]
  rfl

theorem stringBody_plain {c : Char} (hquote : c ≠ '"') (hslash : c ≠ '\\') (hc : ¬ c.toNat < 32)
    (fuel : Nat) (rest : List Char) :
    stringBody (fuel + 1) (c :: rest) = before c (stringBody fuel rest) := by
  refine (if_neg hquote).trans ((if_neg hslash).trans ((if_neg hc).trans rfl))

/-- One character of a string. -/
theorem stringBody_escape_char (c : Char) (fuel : Nat) (rest : List Char) :
    stringBody (fuel + 1) (escape c ++ rest) = before c (stringBody fuel rest) := by
  unfold escape
  split
  case h_8 hquote hslash _ _ _ _ _ =>
    split
    · rename_i hc
      have hnumbered := numberedEscape?_control hc rest
      rw [Char.ofNat_toNat] at hnumbered
      exact stringBody_numbered hnumbered fuel
    · rename_i hc
      exact stringBody_plain hquote hslash hc fuel rest
  all_goals exact stringBody_simple (by decide) rfl fuel rest

/-- A string comes back as it was. -/
theorem stringBody_escape (cs : List Char) {fuel : Nat} (h : cs.length < fuel) (rest : List Char) :
    stringBody fuel (cs.flatMap escape ++ '"' :: rest) = some (cs, rest) := by
  induction cs generalizing fuel with
  | nil =>
      obtain ⟨fuel, rfl⟩ := Nat.exists_eq_succ_of_ne_zero (Nat.ne_of_gt h)
      rfl
  | cons c cs ih =>
      obtain ⟨fuel, rfl⟩ := Nat.exists_eq_succ_of_ne_zero (Nat.ne_of_gt (Nat.zero_lt_of_lt h))
      rw [List.flatMap_cons, List.append_assoc, stringBody_escape_char,
        ih (Nat.lt_of_succ_lt_succ h)]
      rfl

/-! ## Tokens -/

variable {text rest : List Char} {t : Token} {ts us : List Token}

/-- A token does not start with a blank. -/
theorem not_isSpace_of_token {reading : Numeral → Option Float} {c : Char}
    (h : token reading (c :: text) = some (t, rest)) : isSpace c = false := by
  by_contra hspace
  simp only [isSpace, Bool.not_eq_false, Bool.or_eq_true, decide_eq_true_eq] at hspace
  rcases hspace with ((rfl | rfl) | rfl) | rfl <;> cases h

/-- Some tokens have been cut off a text, and a rest is left. -/
structure Cuts (text : List Char) (ts : List Token) (rest : List Char) : Prop where
  tokens (fuel : Nat) : tokensWithin Numeral.scaled (ts.length + fuel) text
    = (tokensWithin Numeral.scaled fuel rest).map (ts ++ ·)
  length : ts.length + rest.length ≤ text.length

theorem Cuts.refl (text : List Char) : Cuts text [] text where
  tokens fuel := by
    rw [List.length_nil, Nat.zero_add]
    cases tokensWithin Numeral.scaled fuel text <;> rfl
  length := by rw [List.length_nil, Nat.zero_add]

theorem Cuts.trans {middle : List Char} (h : Cuts text ts middle) (h' : Cuts middle us rest) :
    Cuts text (ts ++ us) rest where
  tokens fuel := by
    rw [List.length_append, Nat.add_assoc, h.tokens, h'.tokens]
    cases tokensWithin Numeral.scaled fuel rest with
    | none => rfl
    | some more => exact congrArg some (List.append_assoc ts us more).symm
  length := by
    have hfirst := h.length
    have hsecond := h'.length
    rw [List.length_append]
    omega

theorem Cuts.single {w : List Char} (hw : w ≠ [])
    (h : token Numeral.scaled (w ++ rest) = some (t, rest)) : Cuts (w ++ rest) [t] rest where
  tokens fuel := by
    obtain ⟨c, more, rfl⟩ := List.exists_cons_of_ne_nil hw
    rw [List.length_singleton, Nat.add_comm]
    refine (if_neg (by rw [not_isSpace_of_token h]; decide)).trans ?_
    have hhead : token Numeral.scaled (c :: more.append rest) = some (t, rest) := h
    rw [hhead]
    show (do return t :: (← tokensWithin Numeral.scaled fuel rest)) = _
    cases tokensWithin Numeral.scaled fuel rest <;> rfl
  length := by
    have hpos : 0 < w.length := List.length_pos_of_ne_nil hw
    rw [List.length_singleton, List.length_append]
    omega

/-- Once all of a text has been cut, its tokens are known. -/
theorem Cuts.all (h : Cuts text ts []) : Json.tokens Numeral.scaled text = some ts := by
  have hlength := h.length
  obtain ⟨fuel, hfuel⟩ : ∃ fuel, text.length + 1 = ts.length + (fuel + 1) :=
    ⟨text.length - ts.length, by rw [List.length_nil] at hlength; omega⟩
  unfold Json.tokens
  rw [hfuel, h.tokens]
  exact congrArg some (List.append_nil ts)

/-- A text that starts with a numeral starts with its token. -/
theorem token_numeral {reading : Numeral → Option Float} {n : Numeral} {plain : Bool}
    (h : numeral text = some (n, plain, rest)) :
    token reading text = (numberOf reading n plain).map fun d => (.scalar d, rest) := by
  cases text with
  | nil => cases h
  | cons c more =>
      unfold token
      dsimp only
      iterate 10 rw [if_neg (by rintro rfl; cases h)]
      rw [h]
      dsimp only [Option.bind_eq_bind, Option.bind_some]
      cases numberOf reading n plain <;> rfl

theorem length_le_escaped (cs : List Char) : cs.length ≤ (cs.flatMap escape).length := by
  induction cs with
  | nil => exact le_refl _
  | cons c cs ih =>
      have hpos := escape_length_pos c
      rw [List.flatMap_cons, List.length_append, List.length_cons]
      omega

theorem token_string (s : String) (rest : List Char) :
    token Numeral.scaled (writeString s ++ rest) = some (.word s, rest) := by
  have htext : writeString s ++ rest = '"' :: (s.toList.flatMap escape ++ '"' :: rest) := by
    simp only [writeString, List.cons_append, List.append_assoc, List.nil_append]
  have hbody : stringBody ((s.toList.flatMap escape ++ '"' :: rest).length + 1)
      (s.toList.flatMap escape ++ '"' :: rest) = some (s.toList, rest) := by
    refine stringBody_escape _ ?_ rest
    have hlength := length_le_escaped s.toList
    rw [List.length_append]
    omega
  rw [htext]
  show (stringBody _ (s.toList.flatMap escape ++ '"' :: rest)).map _ = _
  rw [hbody]
  exact congrArg (fun w => some (Token.word w, rest)) String.ofList_toList

mutual

/-- The tokens of a document. -/
def toks : Document → List Token
  | .text s => [.word s]
  | .list items => .openList :: toksItems items ++ [.closeList]
  | .map members => .openMap :: toksMembers members ++ [.closeMap]
  | d => [.scalar d.again]

/-- The tokens of the items of a list. -/
def toksItems : List Document → List Token
  | [] => []
  | [d] => toks d
  | d :: rest => toks d ++ .comma :: toksItems rest

/-- The tokens of the members of a map. -/
def toksMembers : List (String × Document) → List Token
  | [] => []
  | [(key, d)] => .word key :: .colon :: toks d
  | (key, d) :: rest => .word key :: .colon :: toks d ++ .comma :: toksMembers rest

end

theorem render_ne_nil {x : Float} (hx : x.isFinite = true) : Shortest.render x ≠ [] := by
  intro hnil
  have hnumeral := @Float.numeral_render x [] hx (by simp [Stops])
  rw [hnil] at hnumeral
  cases hnumeral

/-- A double is one token. -/
theorem cuts_float (x : Float) (h : Stops rest) :
    Cuts (writeFloat x ++ rest) [.scalar (Document.float x).again] rest := by
  unfold writeFloat
  split
  · rename_i hx
    obtain ⟨y, hy⟩ := Option.isSome_iff_exists.1 (Float.scaled_numeral_isSome hx)
    have hagain : Float.again x = some y := by
      rw [Float.again, if_pos hx, hy]
    refine .single (render_ne_nil hx) ?_
    rw [token_numeral (Float.numeral_render hx h)]
    simp only [numberOf, Bool.false_eq_true, false_and, if_false, hy, Document.again, hagain,
      Option.map_some]
  · rename_i hx
    have hagain : Float.again x = none := if_neg hx
    simp only [Document.again, hagain]
    exact .single (by decide) rfl

theorem leads_toDigits (n : Nat) : Leads (Nat.toDigits 10 n) := by
  refine ⟨Decimal.isRun_toDigits n, Nat.toDigits_ne_nil, fun hzero => ?_⟩
  by_cases hn : n = 0
  · rw [hn, Nat.toDigits_zero]
  · exact absurd hzero (Decimal.head_toDigits hn)

/-- A whole number is one token, if it fits. -/
theorem cuts_int {n : Int} (hlow : -(Numeral.wordLimit / 2 : Nat) ≤ n)
    (hhigh : n < Numeral.wordLimit) (h : Stops rest) :
    Cuts ((toString n).toList ++ rest) [.scalar (.int n)] rest := by
  have hdigits : unsigned (n < 0) (Nat.toDigits 10 n.natAbs ++ rest)
      = some (⟨n < 0, Nat.toDigits 10 n.natAbs, [], 0⟩, true, rest) := by
    rw [unsigned_whole (leads_toDigits _) h.noDigit (h.head_ne (by decide)), ending_stop h]
    rfl
  rw [toList_toString_int]
  refine .single (by simp [Nat.toDigits_ne_nil]) ?_
  rw [List.append_assoc, token_numeral (numeral_of_unsigned hdigits)]
  simp only [numberOf, Decimal.value_toDigits, decide_eq_true_eq, true_and]
  by_cases hn : n < 0
  · rw [if_neg (by omega), if_pos (by omega)]
    show some (Token.scalar (.int (-(n.natAbs : Int))), rest) = _
    rw [show -(n.natAbs : Int) = n by omega]
  · rw [if_pos (by omega)]
    show some (Token.scalar (.int n.natAbs), rest) = _
    rw [show (n.natAbs : Int) = n by omega]

/-- A mark is one token. -/
theorem Cuts.mark {c : Char} (h : ∀ rest, token Numeral.scaled (c :: rest) = some (t, rest))
    (hmore : Cuts text ts rest) : Cuts (c :: text) (t :: ts) rest :=
  (Cuts.single (w := [c]) (List.cons_ne_nil c []) (h text)).trans hmore

theorem cuts_word (s : String) (rest : List Char) : Cuts (writeString s ++ rest) [.word s] rest :=
  .single (List.cons_ne_nil _ _) (token_string s rest)

theorem stops_cons {c : Char} (hc : c = ',' ∨ c = ']' ∨ c = '\x7d') (text : List Char) :
    Stops (c :: text) := by
  rintro d ⟨⟩
  exact hc

mutual

/-- The text of a document consists of its tokens. -/
theorem cuts_write {depth : Nat} : ∀ (d : Document), d.fits depth = true → ∀ {rest : List Char},
    Stops rest → Cuts (write d ++ rest) (toks d) rest
  | .null, _, _, _ => .single (by decide) rfl
  | .bool true, _, _, _ => .single (by decide) rfl
  | .bool false, _, _, _ => .single (by decide) rfl
  | .int n, h, _, hrest => by
      have hrange := of_decide_eq_true h
      exact cuts_int hrange.1 hrange.2 hrest
  | .float x, _, _, hrest => cuts_float x hrest
  | .text s, _, _, _ => cuts_word s _
  | .list items, h, rest, _ => by
      have hitems := cuts_writeItems items (Bool.and_eq_true_iff.1 h).2
        (stops_cons (.inr (.inl rfl)) rest)
      have hclose : Cuts (']' :: rest) [.closeList] rest := .mark (fun _ => rfl) (.refl rest)
      show Cuts ('[' :: (writeItems items ++ [']'] ++ rest)) _ rest
      rw [List.append_assoc]
      exact .mark (fun _ => rfl) (hitems.trans hclose)
  | .map members, h, rest, _ => by
      have hmembers := cuts_writeMembers members (Bool.and_eq_true_iff.1 h).2
        (stops_cons (.inr (.inr rfl)) rest)
      have hclose : Cuts ('\x7d' :: rest) [.closeMap] rest := .mark (fun _ => rfl) (.refl rest)
      show Cuts ('\x7b' :: (writeMembers members ++ ['\x7d'] ++ rest)) _ rest
      rw [List.append_assoc]
      exact .mark (fun _ => rfl) (hmembers.trans hclose)

/-- So does the text between the brackets of a list. -/
theorem cuts_writeItems {depth : Nat} : ∀ (items : List Document),
    Document.fitsItems depth items = true → ∀ {rest : List Char},
    Stops rest → Cuts (writeItems items ++ rest) (toksItems items) rest
  | [], _, rest, _ => .refl rest
  | [d], h, _, hrest => cuts_write d (Bool.and_eq_true_iff.1 h).1 hrest
  | d :: e :: more, h, rest, hrest => by
      obtain ⟨hd, hmore⟩ := Bool.and_eq_true_iff.1 h
      have hfirst := cuts_write d hd (stops_cons (.inl rfl) (writeItems (e :: more) ++ rest))
      have hothers := cuts_writeItems (e :: more) hmore hrest
      show Cuts (write d ++ ',' :: writeItems (e :: more) ++ rest) _ rest
      rw [List.append_assoc]
      exact hfirst.trans (.mark (fun _ => rfl) hothers)

/-- And so does the text between the braces of a map. -/
theorem cuts_writeMembers {depth : Nat} : ∀ (members : List (String × Document)),
    Document.fitsMembers depth members = true → ∀ {rest : List Char},
    Stops rest → Cuts (writeMembers members ++ rest) (toksMembers members) rest
  | [], _, rest, _ => .refl rest
  | [(key, d)], h, rest, hrest => by
      have hvalue := cuts_write d (Bool.and_eq_true_iff.1 h).1 hrest
      show Cuts (writeString key ++ ':' :: write d ++ rest) _ rest
      rw [List.append_assoc]
      exact (cuts_word key _).trans (.mark (fun _ => rfl) hvalue)
  | (key, d) :: m :: more, h, rest, hrest => by
      obtain ⟨hd, hmore⟩ := Bool.and_eq_true_iff.1 h
      have hvalue := cuts_write d hd (stops_cons (.inl rfl) (writeMembers (m :: more) ++ rest))
      have hothers := cuts_writeMembers (m :: more) hmore hrest
      show Cuts (writeString key ++ ':' :: write d ++ ',' :: writeMembers (m :: more) ++ rest)
        _ rest
      rw [List.append_assoc, List.append_assoc]
      exact (cuts_word key _).trans (.mark (fun _ => rfl)
        (hvalue.trans (.mark (fun _ => rfl) hothers)))

end

/-- Cutting the text of a document into tokens. -/
theorem tokens_write {depth : Nat} {d : Document} (h : d.fits depth = true) :
    tokens Numeral.scaled (write d) = some (toks d) := by
  have hcuts := @cuts_write depth d h [] (by simp [Stops])
  rw [List.append_nil] at hcuts
  exact hcuts.all

end Json

end HomeEnergy
