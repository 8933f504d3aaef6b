import HomeEnergy.Cache

/-!
# Shared caches

Parts of a program hold handles on caches. Handles are numbered in the order in which they were
made; a handle that was made from another one shares its cache.

## Main results

* `Caches.get?`, `Caches.set` — the cache of a handle, and a change that all its handles show.
* `Caches.share`, `Caches.add` — a further handle on the same cache, or on one of its own.
-/

namespace HomeEnergy

/-- Caches, and for each handle the number of its cache. -/
structure Caches where
  caches : List Cache := [.empty]
  places : List Nat := [0]

namespace Caches

/-- How many handles there are. -/
def handles (s : Caches) : Nat := s.places.length

/-- The cache of a handle. -/
def get? (s : Caches) (handle : Nat) : Option Cache :=
  s.places[handle]?.map (s.caches.getD · .empty)

/-- Change the cache of a handle. -/
def set (s : Caches) (handle : Nat) (c : Cache) : Caches :=
  match s.places[handle]? with
  | some place => { s with caches := s.caches.set place c }
  | none => s

/-- A further handle on the cache of a handle. -/
def share (s : Caches) (handle : Nat) : Caches :=
  match s.places[handle]? with
  | some place => { s with places := s.places ++ [place] }
  | none => s

/-- A handle on a cache of its own. -/
def add (s : Caches) : Caches :=
  { caches := s.caches ++ [.empty], places := s.places ++ [s.caches.length] }

end Caches

end HomeEnergy
