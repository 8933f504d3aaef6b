import HomeEnergy.Cache.Sharing
import Mathlib.Data.List.Forall2
import Mathlib.Data.List.Induction

/-!
# What handles on caches show

A program makes handles on caches, makes further handles out of those, and reads and writes through
all of them. `CacheSession.perform` does one such call with the operations of `Caches` and `Cache`;
`CacheSession.answers` and `CacheSession.reach` tell what a row of calls answers and what it leaves
behind. `CacheStory` is what should come of the same calls: it only knows for each handle to
which making of a cache it goes back, and which payloads have been written, and the content of a
cache is read off the writes (`CacheStory.latest`: the last one under a name counts). That a session
and a story belong together (`Mirrors`) is kept by each call, and whoever knows the story knows
every answer.

A copy of all entries can be read again later: the session keeps the copies it has handed out.

## Main results

* `CacheStory.latest_write` — a write replaces the entry under its own name, in its own cache.
* `Mirrors.perform`, `Mirrors.reports` — one call.
* `CacheSession.run_faithful` — every sequence of calls.
-/

namespace HomeEnergy

/-! ## Calls -/

/-- What a program may do. Handles, and copies of all entries, are known by number, in the order in
which they were made. -/
inductive CacheCall (ρ : Type) where
  | new
  | clone (handle : Nat)
  | put (handle : Nat) (key : String) (payload : ByteArray)
  | putJson (handle : Nat) (key : String) (write : ρ → Outcome Document) (record : ρ)
  | get (handle : Nat) (key : String)
  | entry (handle : Nat) (key : String)
  | contains (handle : Nat) (key : String)
  | keys (handle : Nat)
  | len (handle : Nat)
  | isEmpty (handle : Nat)
  | snapshot (handle : Nat)
  | getJson (handle : Nat) (key : String) (decode : Document → Option ρ)
  /-- Look at a copy that has been taken. -/
  | reread (copy : Nat)

/-- What a call answers. -/
inductive CacheAnswer (ρ : Type) where
  | handle (number : Nat)
  | stored
  | failed (fault : Fault)
  | payload (found : Option ByteArray)
  | flag (holds : Bool)
  | keys (names : List String)
  | count (n : Nat)
  | copy (entries : List (String × ByteArray))
  | record (outcome : Outcome ρ)
  /-- There is no such handle or copy. -/
  | unknown

/-- The caches of a program, its handles on them, and the copies it has taken. -/
structure CacheSession where
  caches : Caches := ⟨[], []⟩
  copies : List (List (String × ByteArray)) := []

variable {ρ : Type}

namespace CacheSession

/-- A call on the cache of a handle. -/
def onHandle (s : CacheSession) (handle : Nat) (f : Cache → CacheAnswer ρ × CacheSession) :
    CacheAnswer ρ × CacheSession :=
  match s.caches.get? handle with
  | some c => f c
  | none => (.unknown, s)

/-- Another content for the cache of a handle. -/
def replace (s : CacheSession) (handle : Nat) (c : Cache) : CacheSession :=
  { s with caches := s.caches.set handle c }

/-- One call: its answer, and what is left. All that is kept of an entry is its payload, so both
ways of asking for it have one answer. -/
def perform (s : CacheSession) : CacheCall ρ → CacheAnswer ρ × CacheSession
  | .new => (.handle s.caches.handles, { s with caches := s.caches.add })
  | .clone h => s.onHandle h fun _ =>
      (.handle s.caches.handles, { s with caches := s.caches.share h })
  | .put h key payload => s.onHandle h fun c => (.stored, s.replace h (c.put key payload))
  | .putJson h key write record => s.onHandle h fun c =>
      match c.store key write record with
      | .ok stored => (.stored, s.replace h stored)
      | .error f => (.failed f, s)
  | .get h key => s.onHandle h fun c => (.payload (c.get? key), s)
  | .entry h key => s.onHandle h fun c => (.payload (c.get? key), s)
  | .contains h key => s.onHandle h fun c => (.flag (c.contains key), s)
  | .keys h => s.onHandle h fun c => (.keys c.names, s)
  | .len h => s.onHandle h fun c => (.count c.size, s)
  | .isEmpty h => s.onHandle h fun c => (.flag c.isEmpty, s)
  | .snapshot h => s.onHandle h fun c =>
      (.copy c.snapshot, { s with copies := s.copies ++ [c.snapshot] })
  | .getJson h key decode => s.onHandle h fun c => (.record (c.read key decode), s)
  | .reread i => ((s.copies[i]?.map .copy).getD .unknown, s)

/-- What is left behind a sequence of calls. -/
def reach (s : CacheSession) (calls : List (CacheCall ρ)) : CacheSession :=
  calls.foldl (fun s call => (s.perform call).2) s

/-- The answers to a sequence of calls. -/
def answers (s : CacheSession) : List (CacheCall ρ) → List (CacheAnswer ρ)
  | [] => []
  | call :: calls => (s.perform call).1 :: (s.perform call).2.answers calls

theorem reach_concat (s : CacheSession) (calls : List (CacheCall ρ)) (call : CacheCall ρ) :
    s.reach (calls ++ [call]) = ((s.reach calls).perform call).2 := by
  simp only [reach, List.foldl_append, List.foldl_cons, List.foldl_nil]

theorem getElem?_answers (s : CacheSession) (calls : List (CacheCall ρ)) (i : Nat) :
    (s.answers calls)[i]? =
      calls[i]?.map fun call => ((s.reach (calls.take i)).perform call).1 := by
  induction calls generalizing s i with
  | nil => rfl
  | cons call calls ih =>
      cases i with
      | zero => rfl
      | succ i => exact ih _ i

theorem onHandle_of_some {s : CacheSession} {handle : Nat} {c : Cache}
    {f : Cache → CacheAnswer ρ × CacheSession} (h : s.caches.get? handle = some c) :
    s.onHandle handle f = f c := by
  simp only [onHandle, h]

theorem onHandle_of_none {s : CacheSession} {handle : Nat}
    {f : Cache → CacheAnswer ρ × CacheSession} (h : s.caches.get? handle = none) :
    s.onHandle handle f = (.unknown, s) := by
  simp only [onHandle, h]

end CacheSession

/-! ## What should come of calls -/

/-- What should come of calls. -/
structure CacheStory where
  /-- How many caches have been made. -/
  news : Nat := 0
  /-- For each handle, the number of the cache that it goes back to. -/
  roots : List Nat := []
  /-- What has been written, in its order: the cache, the name and the payload. -/
  writes : List (Nat × String × ByteArray) := []
  /-- For each copy, the content of its cache at the time. -/
  copies : List (String → Option ByteArray) := []

namespace CacheStory

/-- What a cache holds under a name: the payload that was written last. -/
def latest (st : CacheStory) (root : Nat) (key : String) : Option ByteArray :=
  (st.writes.filter fun w => w.1 = root ∧ w.2.1 = key).getLast?.map fun w => w.2.2

/-- A payload is written through a handle. -/
def write (st : CacheStory) (handle : Nat) (key : String) (payload : ByteArray) : CacheStory :=
  { st with writes := st.writes ++ (st.roots[handle]?.map (·, key, payload)).toList }

/-- What comes of one more call. -/
def after (st : CacheStory) : CacheCall ρ → CacheStory
  | .new => { st with news := st.news + 1, roots := st.roots ++ [st.news] }
  | .clone h => { st with roots := st.roots ++ st.roots[h]?.toList }
  | .put h key payload => st.write h key payload
  | .putJson h key write record =>
    match write record with
    | .ok d => st.write h key (Json.bytes d)
    | .error _ => st
  | .snapshot h => { st with copies := st.copies ++ (st.roots[h]?.map st.latest).toList }
  | _ => st

/-- What comes of a sequence of calls. -/
def ofCalls (calls : List (CacheCall ρ)) : CacheStory := calls.foldl after {}

theorem ofCalls_concat (calls : List (CacheCall ρ)) (call : CacheCall ρ) :
    ofCalls (calls ++ [call]) = (ofCalls calls).after call := by
  simp only [ofCalls, List.foldl_append, List.foldl_cons, List.foldl_nil]

theorem latest_concat (st : CacheStory) (root r : Nat) (key k : String) (payload : ByteArray) :
    { st with writes := st.writes ++ [(root, key, payload)] }.latest r k
      = if r = root ∧ k = key then some payload else st.latest r k := by
  simp only [latest, List.filter_append, List.filter_cons, List.filter_nil]
  by_cases h : root = r ∧ key = k
  · simp [h]
  · have h' : ¬ (r = root ∧ k = key) := fun hrk => h ⟨hrk.1.symm, hrk.2.symm⟩
    rw [if_neg (by simpa using h), List.append_nil, if_neg h']

/-- A write replaces the entry under its own name, and no other one, in its own cache, and in no
other one. -/
theorem latest_write {st : CacheStory} {handle root : Nat} (h : st.roots[handle]? = some root)
    (key : String) (payload : ByteArray) (r : Nat) (k : String) :
    (st.write handle key payload).latest r k
      = if r = root ∧ k = key then some payload else st.latest r k := by
  simp only [write, h, Option.map_some, Option.toList_some]
  exact st.latest_concat root r key k payload

/-- Names in strictly ascending order, each with the payload that it stands for in a finite map. -/
structure Lists (entries : List (String × ByteArray)) (content : String → Option ByteArray) :
    Prop where
  ascending : (entries.map (·.1)).Pairwise (· < ·)
  mem : ∀ key payload, (key, payload) ∈ entries ↔ content key = some payload

/-- What the answer to a call on a handle should be if the cache of the handle holds this. -/
def Observes (content : String → Option ByteArray) : CacheCall ρ → CacheAnswer ρ → Prop
  | .get _ key, a | .entry _ key, a => a = .payload (content key)
  | .contains _ key, a => a = .flag (content key).isSome
  | .keys _, a => ∃ entries, Lists entries content ∧ a = .keys (entries.map (·.1))
  | .len _, a => ∃ entries, Lists entries content ∧ a = .count entries.length
  | .isEmpty _, a => ∃ b, a = .flag b ∧ (b = true ↔ ∀ key, content key = none)
  | .snapshot _, a => ∃ entries, Lists entries content ∧ a = .copy entries
  | .getJson _ key decode, a => ∃ outcome, a = .record outcome ∧
      ((∃ what, outcome = .error (.notFound what)) ↔ content key = none) ∧
      ∀ payload, content key = some payload →
        outcome = match (Json.readBytes payload).bind decode with
          | some record => .ok record
          | none => .error (.serialization "malformed record")
  | .put _ _ _, a => a = .stored
  | .putJson _ _ write record, a =>
      (∀ f, write record = .error f → a = .failed f) ∧ (∀ d, write record = .ok d → a = .stored)
  | _, _ => True

/-- The handle that a call is made on. -/
def handleOf? : CacheCall ρ → Option Nat
  | .new | .reread _ => none
  | .clone h | .put h _ _ | .putJson h _ _ _ | .get h _ | .entry h _ | .contains h _ | .keys h
  | .len h | .isEmpty h | .snapshot h | .getJson h _ _ => some h

/-- What the answer to a call should be. -/
structure Reports (st : CacheStory) (call : CacheCall ρ) (a : CacheAnswer ρ) : Prop where
  /-- A handle shows what its cache holds. -/
  observes : ∀ h root : Nat, handleOf? call = some h → st.roots[h]? = some root →
    Observes (st.latest root) call a
  /-- A further handle has the next number. -/
  handles : ∀ h, call = .new ∨ (call = .clone h ∧ h < st.roots.length) → a = .handle st.roots.length
  /-- A copy shows what the cache held when the copy was taken. -/
  copies : ∀ i content, call = .reread i → st.copies[i]? = some content →
    ∃ entries, Lists entries content ∧ a = .copy entries

end CacheStory

open CacheStory (Lists)

/-- A cache lists its entries. -/
theorem Cache.lists_snapshot {c : Cache} {content : String → Option ByteArray}
    (h : ∀ key, c.get? key = content key) : Lists c.snapshot content where
  ascending := c.records.ascending
  mem key payload := by
    rw [← h key]
    exact Catalog.mem_entries

theorem Cache.isEmpty_iff {c : Cache} {content : String → Option ByteArray}
    (h : ∀ key, c.get? key = content key) : c.isEmpty = true ↔ ∀ key, content key = none := by
  have hlists := c.lists_snapshot h
  rw [isEmpty, List.isEmpty_iff]
  constructor
  · intro hnil key
    apply Option.eq_none_iff_forall_ne_some.2
    intro payload hpayload
    have hmem := (hlists.mem key payload).2 hpayload
    rw [snapshot, hnil] at hmem
    cases hmem
  · intro hnone
    apply List.eq_nil_iff_forall_not_mem.2
    rintro ⟨key, payload⟩ hmem
    have hfound := (hlists.mem key payload).1 hmem
    rw [hnone key] at hfound
    cases hfound

theorem Cache.store_of_ok {c : Cache} {key : String} {write : ρ → Outcome Document} {record : ρ}
    {d : Document} (h : write record = .ok d) :
    c.store key write record = .ok (c.put key (Json.bytes d)) := by
  rw [store, h]
  rfl

theorem Cache.store_of_error {c : Cache} {key : String} {write : ρ → Outcome Document} {record : ρ}
    {f : Fault} (h : write record = .error f) : c.store key write record = .error f := by
  rw [store, h]
  rfl

theorem Cache.read_notFound {c : Cache} {key : String} {decode : Document → Option ρ} :
    (∃ what, c.read key decode = .error (.notFound what)) ↔ c.get? key = none := by
  constructor
  · rintro ⟨what, hread⟩
    unfold read at hread
    split at hread
    · assumption
    · split at hread
      · cases hread
      · injection hread with hfault
        cases hfault
  · intro hnone
    refine ⟨"state for module \"" ++ key ++ "\"", ?_⟩
    simp only [read, hnone]

/-! ## Sessions and stories -/

/-- A session and the story of the same calls. -/
structure Mirrors (s : CacheSession) (st : CacheStory) : Prop where
  places : s.caches.places = st.roots
  news : s.caches.caches.length = st.news
  rooted : ∀ h root : Nat, st.roots[h]? = some root → root < st.news
  written : ∀ w ∈ st.writes, w.1 < st.news
  shows : ∀ root c, s.caches.caches[root]? = some c → ∀ key, c.get? key = st.latest root key
  copied : List.Forall₂ Lists s.copies st.copies

namespace Mirrors

variable {s : CacheSession} {st : CacheStory}

theorem nil : Mirrors {} {} where
  places := rfl
  news := rfl
  rooted h root hroot := by cases hroot
  written w hw := by cases hw
  shows root c hc := by cases hc
  copied := .nil

/-- A handle gives its cache. -/
theorem get?_eq (hm : Mirrors s st) {h root : Nat} (hroot : st.roots[h]? = some root) :
    ∃ c, s.caches.get? h = some c ∧ ∀ key, c.get? key = st.latest root key := by
  have hlt : root < s.caches.caches.length := by
    rw [hm.news]
    exact hm.rooted h root hroot
  refine ⟨s.caches.caches[root], ?_, hm.shows root _ (List.getElem?_eq_getElem hlt)⟩
  simp only [Caches.get?, hm.places, hroot, Option.map_some]
  rw [List.getD_eq_getElem?_getD, List.getElem?_eq_getElem hlt]
  rfl

theorem get?_none (hm : Mirrors s st) {h : Nat} (hroot : st.roots[h]? = none) :
    s.caches.get? h = none := by
  simp only [Caches.get?, hm.places, hroot, Option.map_none]

theorem add (hm : Mirrors s st) :
    Mirrors { s with caches := s.caches.add } (st.after (.new : CacheCall ρ)) where
  places := by
    change s.caches.places ++ [s.caches.caches.length] = st.roots ++ [st.news]
    rw [hm.places, hm.news]
  news := by
    change (s.caches.caches ++ [Cache.empty]).length = st.news + 1
    rw [List.length_append, hm.news]
    rfl
  rooted h root hroot := by
    change (st.roots ++ [st.news])[h]? = some root at hroot
    change root < st.news + 1
    rcases List.mem_append.1 (List.mem_of_getElem? hroot) with hold | hnew
    · obtain ⟨h', hh'⟩ := List.getElem?_of_mem hold
      have := hm.rooted h' root hh'
      omega
    · rw [List.mem_singleton.1 hnew]
      omega
  written w hw := by
    have := hm.written w hw
    change w.1 < st.news + 1
    omega
  shows root c hc key := by
    change (s.caches.caches ++ [Cache.empty])[root]? = some c at hc
    change c.get? key = st.latest root key
    by_cases hlt : root < s.caches.caches.length
    · rw [List.getElem?_append_left hlt] at hc
      exact hm.shows root c hc key
    · have hroot : root = s.caches.caches.length := by
        have := (List.getElem?_eq_some_iff.1 hc).1
        simp only [List.length_append, List.length_singleton] at this
        omega
      subst hroot
      rw [List.getElem?_concat_length] at hc
      obtain rfl := Option.some.inj hc
      have hnone : st.writes.filter
          (fun w => w.1 = s.caches.caches.length ∧ w.2.1 = key) = [] := by
        apply List.filter_eq_nil_iff.2
        intro w hw
        have := hm.written w hw
        rw [← hm.news] at this
        simp only [decide_eq_true_eq]
        omega
      rw [CacheStory.latest, hnone]
      rfl
  copied := hm.copied

theorem share (hm : Mirrors s st) {h root : Nat} (hroot : st.roots[h]? = some root) :
    Mirrors { s with caches := s.caches.share h } (st.after (.clone h : CacheCall ρ)) := by
  have hplace : s.caches.places[h]? = some root := by rw [hm.places, hroot]
  have hshare : s.caches.share h = { s.caches with places := s.caches.places ++ [root] } := by
    simp only [Caches.share, hplace]
  have hafter : st.after (.clone h : CacheCall ρ) = { st with roots := st.roots ++ [root] } := by
    simp only [CacheStory.after, hroot, Option.toList_some]
  rw [hshare, hafter]
  refine ⟨?_, hm.news, ?_, hm.written, hm.shows, hm.copied⟩
  · change s.caches.places ++ [root] = st.roots ++ [root]
    rw [hm.places]
  · intro h' root' hroot'
    change (st.roots ++ [root])[h']? = some root' at hroot'
    rcases List.mem_append.1 (List.mem_of_getElem? hroot') with hold | hnew
    · obtain ⟨h'', hh''⟩ := List.getElem?_of_mem hold
      exact hm.rooted h'' root' hh''
    · rw [List.mem_singleton.1 hnew]
      exact hm.rooted h root hroot

theorem write (hm : Mirrors s st) {h root : Nat} {c : Cache} (hroot : st.roots[h]? = some root)
    (hc : s.caches.get? h = some c) (key : String) (payload : ByteArray) :
    Mirrors (s.replace h (c.put key payload)) (st.write h key payload) := by
  have hplace : s.caches.places[h]? = some root := by rw [hm.places, hroot]
  have hset : s.caches.set h (c.put key payload)
      = { s.caches with caches := s.caches.caches.set root (c.put key payload) } := by
    simp only [Caches.set, hplace]
  obtain ⟨c', hc', hshows⟩ := hm.get?_eq hroot
  obtain rfl := Option.some.inj (hc.symm.trans hc')
  rw [CacheSession.replace, hset]
  refine ⟨hm.places, ?_, hm.rooted, ?_, ?_, hm.copied⟩
  · exact (List.length_set ..).trans hm.news
  · intro w hw
    simp only [CacheStory.write, hroot, Option.map_some, Option.toList_some, List.mem_append,
      List.mem_singleton] at hw
    rcases hw with hold | rfl
    · exact hm.written w hold
    · exact hm.rooted h root hroot
  · intro r d hd k
    change (s.caches.caches.set root (c.put key payload))[r]? = some d at hd
    rw [CacheStory.latest_write hroot]
    rw [List.getElem?_set] at hd
    by_cases hr : root = r
    · subst hr
      have hlt : root < s.caches.caches.length := by
        rw [hm.news]
        exact hm.rooted h root hroot
      rw [if_pos rfl, if_pos hlt] at hd
      obtain rfl := Option.some.inj hd
      rw [Cache.get?_put, hshows]
      simp
    · rw [if_neg hr] at hd
      rw [if_neg fun hrk => hr hrk.1.symm]
      exact hm.shows r d hd k

theorem copy (hm : Mirrors s st) {h root : Nat} {c : Cache} (hroot : st.roots[h]? = some root)
    (hc : ∀ key, c.get? key = st.latest root key) :
    Mirrors { s with copies := s.copies ++ [c.snapshot] }
      (st.after (.snapshot h : CacheCall ρ)) := by
  have hafter : st.after (.snapshot h : CacheCall ρ)
      = { st with copies := st.copies ++ [st.latest root] } := by
    simp only [CacheStory.after, hroot, Option.map_some, Option.toList_some]
  rw [hafter]
  exact ⟨hm.places, hm.news, hm.rooted, hm.written, hm.shows,
    List.rel_append hm.copied (.cons (c.lists_snapshot hc) .nil)⟩

/-! ## One call -/

/-- A call that only looks. -/
theorem look (hm : Mirrors s st) (h : Nat) (f : Cache → CacheAnswer ρ) :
    Mirrors (s.onHandle h fun c => (f c, s)).2 st := by
  rcases hget : s.caches.get? h with _ | c
  · rw [CacheSession.onHandle_of_none hget]
    exact hm
  · rw [CacheSession.onHandle_of_some hget]
    exact hm

/-- A session and its story, one call later. -/
theorem perform (hm : Mirrors s st) (call : CacheCall ρ) :
    Mirrors (s.perform call).2 (st.after call) := by
  cases call with
  | new => exact hm.add
  | clone h =>
      rcases hroot : st.roots[h]? with _ | root
      · simpa [CacheSession.perform, CacheSession.onHandle_of_none (hm.get?_none hroot),
          CacheStory.after, hroot] using hm
      · obtain ⟨c, hc, -⟩ := hm.get?_eq hroot
        rw [CacheSession.perform, CacheSession.onHandle_of_some hc]
        exact hm.share hroot
  | put h key payload =>
      rcases hroot : st.roots[h]? with _ | root
      · simpa [CacheSession.perform, CacheSession.onHandle_of_none (hm.get?_none hroot),
          CacheStory.after, CacheStory.write, hroot] using hm
      · obtain ⟨c, hc, -⟩ := hm.get?_eq hroot
        rw [CacheSession.perform, CacheSession.onHandle_of_some hc]
        exact hm.write hroot hc key payload
  | putJson h key write record =>
      rcases hroot : st.roots[h]? with _ | root
      · rw [CacheSession.perform, CacheSession.onHandle_of_none (hm.get?_none hroot)]
        rcases hwrite : write record with f | d
        · simpa only [CacheStory.after, hwrite] using hm
        · simpa [CacheStory.after, hwrite, CacheStory.write, hroot] using hm
      · obtain ⟨c, hc, -⟩ := hm.get?_eq hroot
        rw [CacheSession.perform, CacheSession.onHandle_of_some hc]
        rcases hwrite : write record with f | d
        · simpa only [Cache.store_of_error hwrite, CacheStory.after, hwrite] using hm
        · simp only [Cache.store_of_ok hwrite, CacheStory.after, hwrite]
          exact hm.write hroot hc key (Json.bytes d)
  | get h key => exact hm.look h _
  | entry h key => exact hm.look h _
  | contains h key => exact hm.look h _
  | keys h => exact hm.look h _
  | len h => exact hm.look h _
  | isEmpty h => exact hm.look h _
  | snapshot h =>
      rcases hroot : st.roots[h]? with _ | root
      · simpa [CacheSession.perform, CacheSession.onHandle_of_none (hm.get?_none hroot),
          CacheStory.after, hroot] using hm
      · obtain ⟨c, hc, hshows⟩ := hm.get?_eq hroot
        rw [CacheSession.perform, CacheSession.onHandle_of_some hc]
        exact hm.copy hroot hshows
  | getJson h key decode => exact hm.look h _
  | reread i => exact hm

/-- The answer of a call on a handle. -/
theorem observes (hm : Mirrors s st) {call : CacheCall ρ} {h root : Nat}
    (hcall : CacheStory.handleOf? call = some h) (hroot : st.roots[h]? = some root) :
    CacheStory.Observes (st.latest root) call (s.perform call).1 := by
  obtain ⟨c, hc, hshows⟩ := hm.get?_eq hroot
  have hlists := c.lists_snapshot hshows
  have hon {f : Cache → CacheAnswer ρ × CacheSession} : s.onHandle h f = f c :=
    CacheSession.onHandle_of_some hc
  cases call with
  | new => cases hcall
  | reread i => cases hcall
  | clone h' => exact trivial
  | put h' key payload =>
      obtain rfl := Option.some.inj hcall
      rw [CacheSession.perform, hon]
      rfl
  | putJson h' key write record =>
      obtain rfl := Option.some.inj hcall
      rw [CacheSession.perform, hon]
      constructor
      · intro f hf
        simp only [Cache.store_of_error hf]
      · intro d hd
        simp only [Cache.store_of_ok hd]
  | get h' key | entry h' key =>
      obtain rfl := Option.some.inj hcall
      rw [CacheSession.perform, hon]
      exact congrArg _ (hshows key)
  | contains h' key =>
      obtain rfl := Option.some.inj hcall
      rw [CacheSession.perform, hon]
      exact congrArg (fun found => CacheAnswer.flag found.isSome) (hshows key)
  | keys h' =>
      obtain rfl := Option.some.inj hcall
      rw [CacheSession.perform, hon]
      exact ⟨c.snapshot, hlists, rfl⟩
  | len h' =>
      obtain rfl := Option.some.inj hcall
      rw [CacheSession.perform, hon]
      exact ⟨c.snapshot, hlists, rfl⟩
  | isEmpty h' =>
      obtain rfl := Option.some.inj hcall
      rw [CacheSession.perform, hon]
      exact ⟨c.isEmpty, rfl, c.isEmpty_iff hshows⟩
  | snapshot h' =>
      obtain rfl := Option.some.inj hcall
      rw [CacheSession.perform, hon]
      exact ⟨c.snapshot, hlists, rfl⟩
  | getJson h' key decode =>
      obtain rfl := Option.some.inj hcall
      rw [CacheSession.perform, hon]
      refine ⟨c.read key decode, rfl, ?_, ?_⟩
      · rw [← hshows key]
        exact Cache.read_notFound
      · intro payload hpayload
        rw [← hshows key] at hpayload
        cases hread : (Json.readBytes payload).bind decode with
        | none => simp only [Cache.read, hpayload, hread]
        | some record => simp only [Cache.read, hpayload, hread]

/-- Whoever knows the story knows the answer to each call. -/
theorem reports (hm : Mirrors s st) (call : CacheCall ρ) :
    st.Reports call (s.perform call).1 where
  observes _ _ hcall hroot := hm.observes hcall hroot
  handles h hcall := by
    have hhandles : s.caches.handles = st.roots.length := by rw [Caches.handles, hm.places]
    rcases hcall with rfl | ⟨rfl, hlt⟩
    · exact congrArg _ hhandles
    · obtain ⟨c, hc, -⟩ := hm.get?_eq (List.getElem?_eq_getElem hlt)
      rw [CacheSession.perform, CacheSession.onHandle_of_some hc, hhandles]
  copies i content hcall hcopy := by
    subst hcall
    obtain ⟨hi, rfl⟩ := List.getElem?_eq_some_iff.1 hcopy
    have hlt : i < s.copies.length := by
      rw [hm.copied.length_eq]
      exact hi
    refine ⟨s.copies[i], hm.copied.get hlt hi, ?_⟩
    simp only [CacheSession.perform, List.getElem?_eq_getElem hlt, Option.map_some,
      Option.getD_some]

/-- A sequence of calls, answered, and its story. -/
theorem of_calls (calls : List (CacheCall ρ)) :
    Mirrors (({} : CacheSession).reach calls) (CacheStory.ofCalls calls) := by
  induction calls using List.reverseRecOn with
  | nil => exact nil
  | append_singleton calls call ih =>
      rw [CacheSession.reach_concat, CacheStory.ofCalls_concat]
      exact ih.perform call

end Mirrors

/-! ## Every sequence of calls -/

namespace CacheStory

theorem roots_after {st : CacheStory} {h root : Nat} (hroot : st.roots[h]? = some root)
    (call : CacheCall ρ) : (st.after call).roots[h]? = some root := by
  have hgrown (more : List Nat) : (st.roots ++ more)[h]? = some root := by
    rw [List.getElem?_append_left (List.getElem?_eq_some_iff.1 hroot).1]
    exact hroot
  cases call with
  | new => exact hgrown _
  | clone h' => exact hgrown _
  | putJson h' key write record =>
      simp only [after]
      split <;> exact hroot
  | _ => exact hroot

theorem latest_write_of_ne {st : CacheStory} {h root : Nat} (hroot : st.roots[h]? ≠ some root)
    (key : String) (payload : ByteArray) :
    (st.write h key payload).latest root = st.latest root := by
  funext k
  rcases hh : st.roots[h]? with _ | r
  · simp only [write, hh, Option.map_none, Option.toList_none, List.append_nil]
  · rw [latest_write hh]
    apply if_neg
    rintro ⟨rfl, -⟩
    exact hroot hh

/-- A call on a handle that goes back to another cache changes nothing in a cache. -/
theorem latest_after {st : CacheStory} {root : Nat} {call : CacheCall ρ}
    (hapart : ∀ h, handleOf? call = some h → st.roots[h]? ≠ some root) :
    (st.after call).latest root = st.latest root := by
  cases call with
  | put h key payload => exact latest_write_of_ne (hapart h rfl) key payload
  | putJson h key write record =>
      simp only [after]
      split
      · exact latest_write_of_ne (hapart h rfl) key _
      · rfl
  | _ => rfl

end CacheStory

/-- What holds behind a sequence of calls of a program that begins without handles, and of each of
its answers. -/
structure CacheSession.Faithful (calls : List (CacheCall ρ)) : Prop where
  /-- Each call is answered. -/
  length : (({} : CacheSession).answers calls).length = calls.length
  /-- Each answer is what the story of the calls before it makes of it. -/
  answers : ∀ (i : Nat) (call : CacheCall ρ) (a : CacheAnswer ρ), calls[i]? = some call →
    (({} : CacheSession).answers calls)[i]? = some a →
    (CacheStory.ofCalls (calls.take i)).Reports call a
  /-- To put a payload replaces the entry under this name, for the handles on the same cache, and
  no other entry. -/
  put : ∀ (h h' root root' : Nat) (key k : String) (payload : ByteArray),
    (CacheStory.ofCalls calls).roots[h]? = some root →
    (CacheStory.ofCalls calls).roots[h']? = some root' →
    ∃ before after, (({} : CacheSession).reach calls).caches.get? h' = some before ∧
      (({} : CacheSession).reach (calls ++ [.put h key payload])).caches.get? h' = some after ∧
      after.get? k = if root' = root ∧ k = key then some payload else before.get? k
  /-- To put a record is to put its bytes. -/
  written : ∀ h key write (record : ρ) d, write record = .ok d →
    (({} : CacheSession).reach calls).perform (.putJson h key write record)
      = (({} : CacheSession).reach calls).perform (.put h key (Json.bytes d))
  /-- A record that cannot be written changes nothing. -/
  refused : ∀ h key write (record : ρ) f, write record = .error f →
    (({} : CacheSession).reach (calls ++ [.putJson h key write record]))
      = ({} : CacheSession).reach calls
  /-- Whatever is called on a handle on another cache, or on none, a handle shows the same cache. -/
  apart : ∀ (h root : Nat) (call : CacheCall ρ), (CacheStory.ofCalls calls).roots[h]? = some root →
    (∀ h', CacheStory.handleOf? call = some h' →
      (CacheStory.ofCalls calls).roots[h']? ≠ some root) →
    (({} : CacheSession).reach (calls ++ [call])).caches.get? h
      = (({} : CacheSession).reach calls).caches.get? h

/-- Handles on caches, in every sequence of calls: those that were made from one another show one
finite map from names to payloads, the last payload under each name, and those of different makings
have nothing to do with each other. -/
theorem CacheSession.run_faithful (calls : List (CacheCall ρ)) : CacheSession.Faithful calls where
  length := by
    have hlength (s : CacheSession) : (s.answers calls).length = calls.length := by
      induction calls generalizing s with
      | nil => rfl
      | cons call calls ih => exact congrArg (· + 1) (ih _)
    exact hlength {}
  answers i call a hcall ha := by
    rw [getElem?_answers, hcall] at ha
    obtain rfl := Option.some.inj ha
    exact (Mirrors.of_calls (calls.take i)).reports call
  put h h' root root' key k payload hroot hroot' := by
    have hm := Mirrors.of_calls calls
    have hnext := Mirrors.of_calls (calls ++ [.put h key payload])
    rw [CacheStory.ofCalls_concat] at hnext
    obtain ⟨before, hbefore, hshown⟩ := hm.get?_eq hroot'
    obtain ⟨after, hafter, hshows⟩ :=
      hnext.get?_eq (CacheStory.roots_after hroot' (.put h key payload))
    refine ⟨before, after, hbefore, hafter, ?_⟩
    rw [hshows, hshown]
    exact CacheStory.latest_write hroot key payload root' k
  written h key write record d hd := by
    simp only [perform, Cache.store_of_ok hd]
  refused h key write record f hf := by
    rw [reach_concat]
    simp only [perform, Cache.store_of_error hf]
    rcases hget : (({} : CacheSession).reach calls).caches.get? h with _ | c
    · rw [onHandle_of_none hget]
    · rw [onHandle_of_some hget]
  apart h root call hroot hapart := by
    have hm := Mirrors.of_calls calls
    have hnext := Mirrors.of_calls (calls ++ [call])
    rw [CacheStory.ofCalls_concat] at hnext
    obtain ⟨before, hbefore, hshown⟩ := hm.get?_eq hroot
    obtain ⟨after, hafter, hshows⟩ := hnext.get?_eq (CacheStory.roots_after hroot call)
    rw [CacheStory.latest_after hapart] at hshows
    have hsame : after.records = before.records := by
      apply Catalog.eq_of_find?
      intro k
      exact (hshows k).trans (hshown k).symm
    rw [hafter, hbefore]
    exact congrArg (fun records => some (Cache.mk records)) hsame

end HomeEnergy
