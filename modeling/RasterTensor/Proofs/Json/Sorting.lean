import RasterTensor.Json.Writer
import RasterTensor.Proofs.Outcomes

/-!
# Sorting members

Sorting looks at the members through their comparison only, so it commutes with every map that the
comparison goes through. Where all members can be compared it gives a rearrangement of them.
-/

namespace RasterTensor.Json

variable {α β ε : Type}

/-! ## The parts of sorting -/

def insertAt (sorted : Array α) (x : α) (place : Nat) : Array α :=
  (sorted.toList.take place ++ x :: sorted.toList.drop place).toArray

def insertAll (below : α → α → Except ε Bool) (sorted : Array α) (xs : List α) :
    Except ε (Array α) :=
  xs.foldlM (fun sorted x => do
    return insertAt sorted x (← insertionPoint below sorted x 0 sorted.size)) sorted

theorem insertAll_cons (below : α → α → Except ε Bool) (sorted : Array α) (x : α) (xs : List α) :
    insertAll below sorted (x :: xs) = (do
      insertAll below (insertAt sorted x (← insertionPoint below sorted x 0 sorted.size)) xs) := by
  rw [insertAll, List.foldlM_cons]
  cases insertionPoint below sorted x 0 sorted.size <;> rfl

theorem sortBy_eq (below : α → α → Except ε Bool) (xs : List α) :
    sortBy below xs = (do
      let (down, n) ← runLength below xs
      let sorted ← insertAll below (if down then (xs.take n).reverse else xs.take n).toArray
        (xs.drop n)
      return sorted.toList) := rfl

/-! ## Sorting what a map gives -/

section Map

variable {below : β → β → Except ε Bool} {f : α → β}

theorem extend_map (down : Bool) (last : α) (n : Nat) (xs : List α) :
    runLength.extend below down (f last) n (xs.map f) =
      runLength.extend (fun x y => below (f x) (f y)) down last n xs := by
  induction xs generalizing last n with
  | nil => rfl
  | cons x xs ih =>
      rw [List.map_cons, runLength.extend, runLength.extend]
      simp only [ih]

theorem runLength_map (xs : List α) :
    runLength below (xs.map f) = runLength (fun x y => below (f x) (f y)) xs := by
  match xs with
  | [] => rfl
  | [x] => rfl
  | x :: y :: rest => simp only [List.map_cons, runLength, extend_map]

theorem insertionPoint_map (sorted : Array α) (x : α) (low high : Nat) :
    insertionPoint below (sorted.map f) (f x) low high =
      insertionPoint (fun x y => below (f x) (f y)) sorted x low high := by
  -- By induction on the length of the range, which is halved.
  induction hsize : high - low using Nat.strongRecOn generalizing low high with
  | ind size ih =>
      unfold insertionPoint
      split
      · next hlt =>
        dsimp only
        rw [Array.getElem?_map]
        cases sorted[(low + high) / 2]? with
        | none => rfl
        | some y =>
            simp only [Option.map_some]
            refine bind_congr fun isBelow => ?_
            split
            · exact ih _ (by omega) low _ rfl
            · exact ih _ (by omega) _ high rfl
      · rfl

theorem insertAt_map (sorted : Array α) (x : α) (place : Nat) :
    insertAt (sorted.map f) (f x) place = (insertAt sorted x place).map f := by
  simp [insertAt]

theorem insertAll_map (sorted : Array α) (xs : List α) :
    insertAll below (sorted.map f) (xs.map f) =
      (insertAll (fun x y => below (f x) (f y)) sorted xs).map (Array.map f) := by
  induction xs generalizing sorted with
  | nil => rfl
  | cons x xs ih =>
      rw [List.map_cons, insertAll_cons, insertAll_cons, insertionPoint_map, Array.size_map]
      cases insertionPoint (fun x y => below (f x) (f y)) sorted x 0 sorted.size with
      | error e => rfl
      | ok place => rw [ok_bind, ok_bind, insertAt_map, ih]

theorem sortBy_map (xs : List α) :
    sortBy below (xs.map f) =
      (sortBy (fun x y => below (f x) (f y)) xs).map (List.map f) := by
  rw [sortBy_eq, sortBy_eq, runLength_map]
  cases runLength (fun x y => below (f x) (f y)) xs with
  | error e => rfl
  | ok run =>
      obtain ⟨down, n⟩ := run
      have hrun : (if down then ((xs.map f).take n).reverse else (xs.map f).take n).toArray =
          (if down then (xs.take n).reverse else xs.take n).toArray.map f := by
        cases down <;> simp
      simp only [ok_bind, hrun, ← List.map_drop, insertAll_map]
      cases insertAll (fun x y => below (f x) (f y))
          (if down then (xs.take n).reverse else xs.take n).toArray (xs.drop n) with
      | error e => rfl
      | ok sorted => simp [Except.map, pure, Except.pure, bind, Except.bind]

end Map

/-! ## What sorting gives -/

section Total

def total (b : α → α → Bool) (x y : α) : Except WriteError Bool := .ok (b x y)

variable (b : α → α → Bool)

theorem extend_isOk (down : Bool) (last : α) (n : Nat) (xs : List α) :
    ∃ m, runLength.extend (total b) down last n xs = .ok m := by
  induction xs generalizing last n with
  | nil => exact ⟨n, rfl⟩
  | cons x xs ih =>
      rw [runLength.extend, total, ok_bind]
      split
      · exact ih x (n + 1)
      · exact ⟨n, rfl⟩

theorem runLength_isOk (xs : List α) :
    ∃ down n, runLength (total b) xs = .ok (down, n) := by
  match xs with
  | [] => exact ⟨false, 0, rfl⟩
  | [x] => exact ⟨false, 1, rfl⟩
  | x :: y :: rest =>
      obtain ⟨n, hn⟩ := extend_isOk b (b y x) y 2 rest
      exact ⟨b y x, n, by rw [runLength, total, ok_bind, hn, ok_bind]; rfl⟩

theorem insertionPoint_isOk (sorted : Array α) (x : α) (low high : Nat) :
    ∃ place, insertionPoint (total b) sorted x low high = .ok place := by
  induction hsize : high - low using Nat.strongRecOn generalizing low high with
  | ind size ih =>
      unfold insertionPoint
      split
      · next hlt =>
        dsimp only
        cases sorted[(low + high) / 2]? with
        | none => exact ⟨low, rfl⟩
        | some y =>
            simp only [total, ok_bind]
            split
            · exact ih _ (by omega) low _ rfl
            · exact ih _ (by omega) _ high rfl
      · exact ⟨low, rfl⟩

theorem perm_insertAt (sorted : Array α) (x : α) (place : Nat) :
    (insertAt sorted x place).toList.Perm (x :: sorted.toList) := by
  have hsplit : sorted.toList.take place ++ sorted.toList.drop place = sorted.toList :=
    List.take_append_drop ..
  rw [insertAt, List.toList_toArray]
  exact List.perm_middle.trans (by rw [hsplit])

theorem perm_insertAll (sorted : Array α) (xs : List α) :
    ∃ result : Array α, insertAll (total b) sorted xs = .ok result ∧
      result.toList.Perm (sorted.toList ++ xs) := by
  induction xs generalizing sorted with
  | nil => exact ⟨sorted, rfl, by simp⟩
  | cons x xs ih =>
      obtain ⟨place, hplace⟩ := insertionPoint_isOk b sorted x 0 sorted.size
      obtain ⟨result, hresult, hperm⟩ := ih (insertAt sorted x place)
      refine ⟨result, by rw [insertAll_cons, hplace, ok_bind, hresult], ?_⟩
      have hinserted := (perm_insertAt sorted x place).append_right xs
      exact hperm.trans (hinserted.trans List.perm_middle.symm)

/-- Members that can all be compared are rearranged. -/
theorem perm_sortBy (xs : List α) :
    ∃ ys, sortBy (total b) xs = .ok ys ∧ ys.Perm xs := by
  obtain ⟨down, n, hrun⟩ := runLength_isOk b xs
  obtain ⟨result, hresult, hperm⟩ := perm_insertAll b
    (if down then (xs.take n).reverse else xs.take n).toArray (xs.drop n)
  have hsorted : sortBy (total b) xs = .ok result.toList := by
    rw [sortBy_eq, hrun, ok_bind]
    dsimp only
    rw [hresult, ok_bind]
    rfl
  refine ⟨result.toList, hsorted, ?_⟩
  have hfirst : (if down then (xs.take n).reverse else xs.take n).Perm (xs.take n) := by
    cases down
    · exact .refl _
    · exact List.reverse_perm _
  have hsplit : xs.take n ++ xs.drop n = xs := List.take_append_drop n xs
  exact hperm.trans ((hfirst.append_right _).trans (by rw [hsplit]))

end Total

end RasterTensor.Json
