import HomeEnergy.Proofs.Stove.Number
import Mathlib.Data.List.Infix

/-!
# Flat pages

A flat page is written element by element: each is an opening tag, with attributes or without, a
content, and a closing tag, and between, before and behind the elements there is other text. Tags
may be written in any letter case. A content may hold whatever is no closing tag, so also further
opening tags; the other text may hold whatever is no start of an opening tag, so also closing tags
and angle brackets.

The scanner of a page looks at each place for an opening tag and from there for the next closing
tag. A tag starts with an angle bracket and has no other one in it, so no tag is found that starts
in one part of a page and ends in the next.

## Main results

* `Stove.contentsWithin_apart`, `Stove.contentsWithin_element` — the scanner between elements, and
  at one.
* `Stove.contents_page` — the contents of a flat page are those that it has been written from.
* `Stove.read_page` — the readings, or the fault, that a flat page gives.
-/

namespace HomeEnergy.Stove

/-- A tag, given in small letters, occurs in a text in any letter case. -/
def Holds (tag text : List Char) : Prop := ∃ part, part <:+: text ∧ part.map Char.toLower = tag

/-- A tag occurs where one of the ends of a text begins with it. -/
theorem holds_iff {tag text : List Char} :
    Holds tag text ↔ ∃ t ∈ text.tails, (t.take tag.length).map Char.toLower = tag := by
  constructor
  · rintro ⟨part, ⟨before, behind, rfl⟩, hlower⟩
    have hlength : tag.length = part.length := by rw [← hlower, List.length_map]
    refine ⟨part ++ behind, ?_, ?_⟩
    · rw [List.mem_tails, List.append_assoc]
      exact List.suffix_append before _
    · rw [hlength, List.take_left]
      exact hlower
  · rintro ⟨t, ht, hlower⟩
    exact ⟨_, (List.take_prefix _ t).isInfix.trans ((List.mem_tails t text).1 ht).isInfix, hlower⟩

instance (tag text : List Char) : Decidable (Holds tag text) := decidable_of_iff _ holds_iff.symm

/-- An element as it is written. -/
structure Element where
  /-- The name in the opening tag. -/
  opening : List Char
  attributes : List Char
  content : List Char
  /-- The name in the closing tag. -/
  closing : List Char
  opening_named : opening.map Char.toLower = "div".toList
  closing_named : closing.map Char.toLower = "div".toList
  attributes_open : '>' ∉ attributes
  attributes_apart : ∀ c ∈ attributes.head?, Text.isBlank c = true
  content_open : ¬ Holds "</div>".toList content

/-- The closing tag of an element. -/
def Element.closingTag (e : Element) : List Char := '<' :: '/' :: (e.closing ++ ['>'])

/-- The text of an element. -/
def Element.text (e : Element) : List Char :=
  '<' :: (e.opening ++ (e.attributes ++ '>' :: (e.content ++ e.closingTag)))

/-- A flat page: other text, then elements, each with the other text behind it. -/
structure Page where
  lead : List Char
  elements : List (Element × List Char)
  lead_free : ¬ Holds "<div".toList lead
  free : ∀ p ∈ elements, ¬ Holds "<div".toList p.2

/-- The text of elements and of what is behind them. -/
def elementsText (elements : List (Element × List Char)) : List Char :=
  elements.flatMap fun p => p.1.text ++ p.2

/-- The text of a page. -/
def Page.text (p : Page) : String := String.ofList (p.lead ++ elementsText p.elements)

/-! ## Tags -/

variable {tag tail part text rest : List Char}

theorem Holds.of_cons {c : Char} (h : Holds tag text) : Holds tag (c :: text) := by
  obtain ⟨part, hpart, hlower⟩ := h
  exact ⟨part, hpart.trans (List.suffix_cons c text).isInfix, hlower⟩

theorem afterTag?_append (h : part.map Char.toLower = tag) :
    afterTag? tag (part ++ rest) = some rest := by
  have hlength : tag.length = part.length := by rw [← h, List.length_map]
  unfold afterTag?
  rw [hlength, List.take_left, List.drop_left, if_pos h]

/-- A text goes on with an angle bracket, if it goes on at all. -/
def Bracketed (text : List Char) : Prop := ∀ c ∈ text.head?, c = '<'

/-- No tag starts in a text without it, also not one that would end in what follows. -/
theorem afterTag?_apart (htag : tag = '<' :: tail) (htail : '<' ∉ tail) (htext : text ≠ [])
    (hfree : ¬ Holds tag text) (hrest : Bracketed rest) : afterTag? tag (text ++ rest) = none := by
  refine if_neg fun hlower => ?_
  rw [List.take_append, List.map_append] at hlower
  cases hover : rest.take (tag.length - text.length) with
  | nil =>
      rw [hover, List.map_nil, List.append_nil] at hlower
      exact hfree ⟨_, (List.take_prefix _ text).isInfix, hlower⟩
  | cons c more =>
      -- The tag would have a second angle bracket where the text ends.
      have hc : c = '<' := by
        refine hrest c ?_
        have hprefix := List.take_prefix (tag.length - text.length) rest
        rw [hover] at hprefix
        obtain ⟨behind, rfl⟩ := hprefix
        rfl
      subst hc
      rw [hover, List.take_of_length_le, htag] at hlower
      · cases text with
        | nil => exact htext rfl
        | cons d text =>
            rw [List.map_cons, List.cons_append] at hlower
            have htail' := (List.cons.inj hlower).2
            rw [← htail'] at htail
            exact htail (List.mem_append_right _ List.mem_cons_self)
      · have hlength := congrArg List.length hover
        rw [List.length_take, List.length_cons] at hlength
        omega

/-! ## One element -/

theorem isWordChar_of_isBlank {c : Char} (h : Text.isBlank c = true) :
    Text.isWordChar c = false := by
  have hall : ∀ n ∈ List.range' 9 5 ++ [0x20, 0x85, 0xA0, 0x1680] ++ List.range' 0x2000 11 ++
      [0x2028, 0x2029, 0x202F, 0x205F, 0x3000], Text.isWordChar (Char.ofNat n) = false := by
    decide +kernel
  have hmem : c.toNat ∈ List.range' 9 5 ++ [0x20, 0x85, 0xA0, 0x1680] ++ List.range' 0x2000 11 ++
      [0x2028, 0x2029, 0x202F, 0x205F, 0x3000] := by
    simp [Text.isBlank] at h
    simp only [List.mem_append, List.mem_range'_1, List.mem_cons, List.not_mem_nil, or_false]
    omega
  rw [← Char.ofNat_toNat c]
  exact hall _ hmem

/-- An opening tag, from its name to the angle bracket at its end. -/
theorem afterOpening?_eq {more : List Char} (hname : afterTag? "<div".toList text = some rest)
    (hapart : ¬ (rest.head?.map Text.isWordChar).getD false = true)
    (hend : rest.dropWhile (· ≠ '>') = '>' :: more) : afterOpening? text = some more := by
  unfold afterOpening?
  rw [hname, Option.bind_eq_bind, Option.bind_some, if_neg hapart, hend]

namespace Element

variable (e : Element)

theorem closingTag_lower : e.closingTag.map Char.toLower = "</div>".toList := by
  unfold closingTag
  rw [List.map_cons, List.map_cons, List.map_append, e.closing_named]
  rfl

theorem untilClosing_content (rest : List Char) :
    untilClosing (e.content ++ (e.closingTag ++ rest)) = some (e.content, rest) := by
  have hfree := e.content_open
  generalize e.content = content at hfree
  induction content with
  | nil =>
      have hafter : afterTag? "</div>".toList (e.closingTag ++ rest) = some rest :=
        afterTag?_append e.closingTag_lower
      rw [List.nil_append]
      unfold closingTag at hafter ⊢
      rw [List.cons_append] at hafter ⊢
      rw [untilClosing, hafter]
  | cons c content ih =>
      have hnone : afterTag? "</div>".toList ((c :: content) ++ (e.closingTag ++ rest)) = none :=
        afterTag?_apart rfl (by decide) (List.cons_ne_nil c content) hfree (by
          rintro _ ⟨⟩
          rfl)
      rw [List.cons_append] at hnone ⊢
      rw [untilClosing, hnone]
      dsimp only
      rw [ih fun h => hfree h.of_cons]
      rfl

theorem afterOpening?_text (rest : List Char) :
    afterOpening? (e.text ++ rest) = some (e.content ++ (e.closingTag ++ rest)) := by
  have hname : ('<' :: e.opening).map Char.toLower = "<div".toList := by
    rw [List.map_cons, e.opening_named]
    rfl
  have htext : e.text ++ rest = ('<' :: e.opening) ++
      (e.attributes ++ '>' :: (e.content ++ (e.closingTag ++ rest))) := by
    simp [text]
  have hapart : ¬ ((e.attributes ++ '>' :: (e.content ++ (e.closingTag ++ rest))).head?.map
      Text.isWordChar).getD false = true := by
    cases hattributes : e.attributes with
    | nil =>
        show ¬ Text.isWordChar '>' = true
        decide
    | cons c attributes =>
        have hblank := e.attributes_apart c (by rw [hattributes]; rfl)
        show ¬ Text.isWordChar c = true
        rw [isWordChar_of_isBlank hblank]
        exact Bool.false_ne_true
  have hend : (e.attributes ++ '>' :: (e.content ++ (e.closingTag ++ rest))).dropWhile (· ≠ '>')
      = '>' :: (e.content ++ (e.closingTag ++ rest)) := by
    have hopen : ∀ c ∈ e.attributes, decide (c ≠ '>') = true := by
      intro c hc
      refine decide_eq_true ?_
      rintro rfl
      exact e.attributes_open hc
    rw [List.dropWhile_append_of_pos hopen, List.dropWhile_cons_of_neg (by decide)]
  rw [htext]
  exact afterOpening?_eq (afterTag?_append hname) hapart hend

end Element

/-- At an element the scanner takes its content and goes on behind it. -/
theorem contentsWithin_element (e : Element) (rest : List Char) (fuel : Nat) :
    contentsWithin (fuel + 1) (e.text ++ rest)
      = Text.trim e.content :: contentsWithin fuel rest := by
  have hfound : (afterOpening? (e.text ++ rest)).bind untilClosing = some (e.content, rest) := by
    rw [e.afterOpening?_text, Option.bind_some, e.untilClosing_content]
  unfold Element.text at hfound ⊢
  rw [List.cons_append] at hfound ⊢
  rw [contentsWithin, hfound]

/-- Between elements the scanner finds nothing. -/
theorem contentsWithin_apart (hfree : ¬ Holds "<div".toList text) (hrest : Bracketed rest)
    (fuel : Nat) :
    contentsWithin (text.length + fuel) (text ++ rest) = contentsWithin fuel rest := by
  induction text with
  | nil => rw [List.length_nil, Nat.zero_add, List.nil_append]
  | cons c text ih =>
      have hnone : afterTag? "<div".toList ((c :: text) ++ rest) = none :=
        afterTag?_apart rfl (by decide) (List.cons_ne_nil c text) hfree hrest
      have hfound : (afterOpening? ((c :: text) ++ rest)).bind untilClosing = none := by
        unfold afterOpening?
        rw [hnone]
        rfl
      rw [List.cons_append] at hfound ⊢
      rw [List.length_cons, Nat.add_right_comm, contentsWithin, hfound]
      exact ih fun h => hfree h.of_cons

/-! ## Pages -/

theorem bracketed_elementsText (elements : List (Element × List Char)) :
    Bracketed (elementsText elements) := by
  cases elements with
  | nil => exact fun c hc => absurd hc (by simp [elementsText])
  | cons p elements =>
      rintro _ ⟨⟩
      rfl

theorem contentsWithin_elements {elements : List (Element × List Char)}
    (hfree : ∀ p ∈ elements, ¬ Holds "<div".toList p.2) {fuel : Nat}
    (hfuel : (elementsText elements).length ≤ fuel) :
    contentsWithin fuel (elementsText elements)
      = elements.map fun p => Text.trim p.1.content := by
  induction elements generalizing fuel with
  | nil =>
      cases fuel with
      | zero => rfl
      | succ fuel => rfl
  | cons p elements ih =>
      have htext : elementsText (p :: elements)
          = p.1.text ++ (p.2 ++ elementsText elements) := by
        simp [elementsText]
      have hlength : (elementsText (p :: elements)).length
          = p.1.text.length + (p.2.length + (elementsText elements).length) := by
        rw [htext, List.length_append, List.length_append]
      have hpos : 0 < p.1.text.length := Nat.succ_pos _
      obtain ⟨left, rfl⟩ : ∃ left, fuel = p.2.length + left + 1 :=
        ⟨fuel - 1 - p.2.length, by omega⟩
      have hleft : (elementsText elements).length ≤ left := by omega
      rw [htext, contentsWithin_element, contentsWithin_apart (hfree p List.mem_cons_self)
        (bracketed_elementsText elements), List.map_cons,
        ih (fun q hq => hfree q (List.mem_cons_of_mem p hq)) hleft]

/-- The contents of a flat page are those that it has been written from, without the blanks around
them, in their order. -/
theorem contents_page (p : Page) :
    contents p.text = p.elements.map fun q => Text.trimmed (String.ofList q.1.content) := by
  have hlength : p.text.length = p.lead.length + (elementsText p.elements).length := by
    rw [Page.text, String.length_ofList, List.length_append]
  unfold contents
  rw [hlength, Page.text, String.toList_ofList,
    contentsWithin_apart p.lead_free (bracketed_elementsText p.elements),
    contentsWithin_elements p.free (Nat.le_refl _), List.map_map]
  refine List.map_congr_left fun q _ => ?_
  rw [Function.comp_apply, Text.trimmed, String.toList_ofList]

/-- The text in the element at a place of a page. -/
def Page.contentAt (p : Page) (place : Nat) (h : place < p.elements.length) : String :=
  String.ofList p.elements[place].1.content

/-- What a flat page gives. Its elements are found one by one, whatever is written between them.
With fewer than ten of them the page is refused, with their number. From ten on it gives a reading,
each value of which is the number in the content at its place. -/
theorem read_page (p : Page) (time : Timestamp) :
    contents p.text = p.elements.map (fun q => Text.trimmed (String.ofList q.1.content)) ∧
    (p.elements.length < 10 → read time p.text = .error (.protocol "hafnertec"
      ("expected at least 10 fields in schematic, got " ++ toString p.elements.length))) ∧
    (∀ h : 10 ≤ p.elements.length, read time p.text = .ok {
      time
      chamber := readNumber (p.contentAt 1 (by omega))
      heatingShare := readNumber (p.contentAt 2 (by omega))
      flow := readNumber (p.contentAt 3 (by omega))
      returned := readNumber (p.contentAt 4 (by omega))
      throughput := readNumber (p.contentAt 5 (by omega))
      fan := readNumber (p.contentAt 9 (by omega)) }) := by
  have hcontents := contents_page p
  have hlength : (contents p.text).length = p.elements.length := by
    rw [hcontents, List.length_map]
  refine ⟨hcontents, ?_, ?_⟩
  · intro hfew
    have hless : (contents p.text).length < leastElements := by
      rw [hlength]
      exact hfew
    unfold read
    rw [if_pos hless, hlength]
    rfl
  · intro hmany
    have henough : ¬ (contents p.text).length < leastElements := by
      rw [hlength]
      exact Nat.not_lt.2 hmany
    have hat (place : Nat) (h : place < p.elements.length) :
        readNumber ((contents p.text)[place]?.getD "") = readNumber (p.contentAt place h) := by
      rw [hcontents, List.getElem?_map, List.getElem?_eq_getElem h]
      exact readNumber_trimmed _
    unfold read
    rw [if_neg henough]
    dsimp only
    rw [hat 1 (by omega), hat 2 (by omega), hat 3 (by omega), hat 4 (by omega), hat 5 (by omega),
      hat 9 (by omega)]

/-- An element with capitals in its tags, an angle bracket in its opening tag, and another opening
tag and what is almost a closing tag in its content. -/
def ornateElement : Element where
  opening := "DIV".toList
  attributes := " id='pos' <".toList
  content := "\n<div>18.8°</div".toList
  closing := "dIv".toList
  opening_named := by decide
  closing_named := by decide
  attributes_open := by decide
  attributes_apart := by
    rintro _ ⟨⟩
    rfl
  content_open := by decide

/-- A page of such elements, with closing tags and open brackets between them. -/
def ornatePage (n : Nat) : Page where
  lead := "</div><dib".toList
  elements := List.replicate n (ornateElement, "</DIV> <".toList)
  lead_free := by decide
  free p hp := by
    rw [List.eq_of_mem_replicate hp]
    decide

theorem ornatePage_contentAt (place : Nat) {n : Nat} (h : place < (ornatePage n).elements.length) :
    (ornatePage n).contentAt place h = "\n<div>18.8°</div" := by
  have hmem := List.eq_of_mem_replicate (List.getElem_mem h)
  unfold Page.contentAt
  rw [hmem]
  exact String.ofList_toList

theorem read_page_ornate :
    read (.ofNanos 0) (ornatePage 3).text = .error (.protocol "hafnertec"
      ("expected at least 10 fields in schematic, got " ++ toString 3)) ∧
    ∃ r, read (.ofNanos 0) (ornatePage 10).text = .ok r ∧
      r.chamber = readNumber "\n<div>18.8°</div" ∧ r.fan = readNumber "\n<div>18.8°</div" := by
  have hfew : (ornatePage 3).elements.length = 3 := List.length_replicate
  have hmany : (ornatePage 10).elements.length = 10 := List.length_replicate
  have hrefused := (read_page (ornatePage 3) (.ofNanos 0)).2.1 (by rw [hfew]; decide)
  rw [hfew] at hrefused
  refine ⟨hrefused, _, (read_page (ornatePage 10) (.ofNanos 0)).2.2 hmany.ge, ?_, ?_⟩
  · exact congrArg readNumber (ornatePage_contentAt 1 _)
  · exact congrArg readNumber (ornatePage_contentAt 9 _)

end HomeEnergy.Stove
