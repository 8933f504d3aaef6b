import HomeEnergy.Proofs.Document.Tokens

/-!
# Documents written and read again

The tokens of a document lead through the open lists and maps around it and give what the document
becomes. Nothing is refused on the way unless lists and maps are nested too deep.

## Main results

* `Json.build_value`, `Json.build_items`, `Json.build_members` — what the tokens of a document, of
  the items of a list and of the members of a map give.
* `Json.readBytes_bytes` — what is read from the bytes of a document.
-/

namespace HomeEnergy.Json

variable {stack stack' : List Frame} {e e' : Expecting} {t : Token}

theorem build_step (h : step stack e t = some (stack', e')) (ts : List Token) :
    build stack e (t :: ts) = build stack' e' ts := by
  have hcons : build stack e (t :: ts) = (step stack e t).bind fun p => build p.1 p.2 ts := by
    cases stack <;> cases e <;> rfl
  rw [hcons, h]
  rfl

/-- A value may come next. -/
def Expecting.IsOpen (e : Expecting) : Prop := e = .value ∨ e = .firstItem

theorem step_word (he : e.IsOpen) (s : String) :
    step stack e (.word s) = some (stack, .after (.text s)) := by
  rcases he with rfl | rfl <;> rfl

theorem step_scalar (he : e.IsOpen) (d : Document) :
    step stack e (.scalar d) = some (stack, .after d) := by
  rcases he with rfl | rfl <;> rfl

theorem step_openList (he : e.IsOpen) (h : stack.length + 1 < depthLimit) :
    step stack e .openList = some (.items [] :: stack, .firstItem) := by
  have hdeeper : deeper stack = true := decide_eq_true h
  rcases he with rfl | rfl <;> exact if_pos hdeeper

theorem step_openMap (he : e.IsOpen) (h : stack.length + 1 < depthLimit) :
    step stack e .openMap = some (.members [] "" :: stack, .firstKey) := by
  have hdeeper : deeper stack = true := decide_eq_true h
  rcases he with rfl | rfl <;> exact if_pos hdeeper

theorem toksMembers_of_ne_nil {members : List (String × Document)} (h : members ≠ []) :
    ∃ key more, toksMembers members = .word key :: more := by
  match members with
  | [] => exact absurd rfl h
  | [(key, d)] => exact ⟨key, _, rfl⟩
  | (key, d) :: m :: more => exact ⟨key, _, rfl⟩

/-- The first key of a map is read like any other. -/
theorem build_firstKey (frame : Frame) (key : String) (ts : List Token) :
    build (frame :: stack) .firstKey (.word key :: ts) = build stack (.key []) (.word key :: ts) :=
  (build_step rfl ts).trans (build_step rfl ts).symm

mutual

/-- The tokens of a document give what the document becomes. -/
theorem build_value : ∀ (d : Document) {depth : Nat}, d.fits depth = true →
    ∀ (stack : List Frame) {e : Expecting} (ts : List Token), e.IsOpen →
    stack.length + depth < depthLimit →
    build stack e (toks d ++ ts) = build stack (.after d.again) ts
  | .null, _, _, _, _, ts, he, _ => build_step (step_scalar he _) ts
  | .bool _, _, _, _, _, ts, he, _ => build_step (step_scalar he _) ts
  | .int _, _, _, _, _, ts, he, _ => build_step (step_scalar he _) ts
  | .float _, _, _, _, _, ts, he, _ => build_step (step_scalar he _) ts
  | .text s, _, _, _, _, ts, he, _ => build_step (step_word he s) ts
  | .list items, depth, h, stack, e, ts, he, hdepth => by
      obtain ⟨hpos, hitems⟩ := Bool.and_eq_true_iff.1 h
      have hpos := of_decide_eq_true hpos
      show build stack e (.openList :: (toksItems items ++ [.closeList] ++ ts)) = _
      rw [build_step (step_openList he (by omega)), List.append_assoc]
      by_cases hne : items = []
      · rw [hne]
        exact build_step rfl ts
      · exact build_items items hne hitems stack [] ts (.inr rfl) (by omega)
  | .map members, depth, h, stack, e, ts, he, hdepth => by
      obtain ⟨hpos, hmembers⟩ := Bool.and_eq_true_iff.1 h
      have hpos := of_decide_eq_true hpos
      show build stack e (.openMap :: (toksMembers members ++ [.closeMap] ++ ts)) = _
      rw [build_step (step_openMap he (by omega)), List.append_assoc]
      by_cases hne : members = []
      · rw [hne]
        exact build_step rfl ts
      · obtain ⟨key, more, hkey⟩ := toksMembers_of_ne_nil hne
        have hall := build_members members hne hmembers stack [] ts (by omega)
        rw [hkey] at hall ⊢
        exact (build_firstKey _ key _).trans hall

/-- The tokens of the items of a list, up to its end. -/
theorem build_items : ∀ (items : List Document), items ≠ [] → ∀ {depth : Nat},
    Document.fitsItems depth items = true →
    ∀ (stack : List Frame) {e : Expecting} (done : List Document) (ts : List Token), e.IsOpen →
    stack.length + 1 + depth < depthLimit →
    build (.items done :: stack) e (toksItems items ++ .closeList :: ts)
      = build stack (.after (.list (done.reverse ++ Document.againItems items))) ts
  | [], hne, _, _, _, _, _, _, _, _ => absurd rfl hne
  | [d], _, depth, h, stack, e, done, ts, he, hdepth => by
      have hd := build_value d (Bool.and_eq_true_iff.1 h).1 (.items done :: stack)
        (.closeList :: ts) he (by rw [List.length_cons]; omega)
      show build (.items done :: stack) e (toks d ++ .closeList :: ts) = _
      rw [hd, build_step rfl, List.reverse_cons]
      rfl
  | d :: d' :: more, _, depth, h, stack, e, done, ts, he, hdepth => by
      obtain ⟨hfirst, hothers⟩ := Bool.and_eq_true_iff.1 h
      have hd := build_value d hfirst (.items done :: stack)
        (.comma :: toksItems (d' :: more) ++ .closeList :: ts) he
        (by rw [List.length_cons]; omega)
      have hmore := build_items (d' :: more) (List.cons_ne_nil _ _) hothers stack (d.again :: done)
        ts (.inl rfl) hdepth
      show build (.items done :: stack) e
        (toks d ++ .comma :: toksItems (d' :: more) ++ .closeList :: ts) = _
      rw [List.append_assoc]
      refine hd.trans ((build_step rfl _).trans (hmore.trans ?_))
      rw [List.reverse_cons, List.append_assoc]
      rfl

/-- The tokens of the members of a map, up to its end. -/
theorem build_members : ∀ (members : List (String × Document)), members ≠ [] → ∀ {depth : Nat},
    Document.fitsMembers depth members = true →
    ∀ (stack : List Frame) (done : List (String × Document)) (ts : List Token),
    stack.length + 1 + depth < depthLimit →
    build stack (.key done) (toksMembers members ++ .closeMap :: ts)
      = build stack (.after (.map (done.reverse ++ Document.againMembers members))) ts
  | [], hne, _, _, _, _, _, _ => absurd rfl hne
  | [(key, d)], _, depth, h, stack, done, ts, hdepth => by
      have hd := build_value d (Bool.and_eq_true_iff.1 h).1 (.members done key :: stack)
        (.closeMap :: ts) (.inl rfl) (by rw [List.length_cons]; omega)
      refine (build_step rfl _).trans ((build_step rfl _).trans (hd.trans ?_))
      refine (build_step rfl _).trans ?_
      rw [List.reverse_cons]
      rfl
  | (key, d) :: m :: more, _, depth, h, stack, done, ts, hdepth => by
      obtain ⟨hfirst, hothers⟩ := Bool.and_eq_true_iff.1 h
      have hd := build_value d hfirst (.members done key :: stack)
        (.comma :: toksMembers (m :: more) ++ .closeMap :: ts) (.inl rfl)
        (by rw [List.length_cons]; omega)
      have hmore := build_members (m :: more) (List.cons_ne_nil _ _) hothers stack
        ((key, d.again) :: done) ts hdepth
      show build stack (.key done) (.word key :: .colon
        :: (toks d ++ .comma :: toksMembers (m :: more) ++ .closeMap :: ts)) = _
      rw [List.append_assoc]
      refine (build_step rfl _).trans ((build_step rfl _).trans (hd.trans ?_))
      refine (build_step rfl _).trans (hmore.trans ?_)
      rw [List.reverse_cons, List.append_assoc]
      rfl

end

theorem readWith_write {depth : Nat} {d : Document} (h : d.fits depth = true)
    (hdepth : depth < depthLimit) : readWith Numeral.scaled (write d) = some d.again := by
  have hbuild := build_value d h [] [] (.inl rfl) (by rw [List.length_nil]; omega)
  rw [List.append_nil] at hbuild
  unfold readWith
  rw [tokens_write h]
  exact hbuild

/-- What is read from the bytes of a document. -/
theorem readBytes_bytes {depth : Nat} {d : Document} (h : d.fits depth = true)
    (hdepth : depth < depthLimit) : readBytes (bytes d) = some d.again := by
  have hutf8 : String.fromUTF8? (bytes d) = some (text d) := dif_pos (text d).isValidUTF8
  have hlist : (text d).toList = write d := String.toList_ofList
  unfold readBytes
  rw [hutf8]
  show readWith Numeral.scaled (text d).toList = _
  rw [hlist]
  exact readWith_write h hdepth

end HomeEnergy.Json
