import Mathlib.Data.List.Basic
import Mathlib.Data.List.Infix
import Mathlib.Data.List.Nodup

/-!
# MonascaAgent.Python

The fragment of Python the Kubernetes check runs on:

* `Err` — the exceptions it can raise (`KeyError`, `IndexError`, `ValueError`, a transport error).
* `Dict` — a `dict` with string keys: its items in insertion order, each key once. `d[k] = v`
  keeps a present key in its place and appends a new one, as CPython does.
* `pyContains`, `pySplit`, `pyJoin` — `a in s`, `s.split(sep)` and `sep.join(xs)` on strings.

Every dictionary the check builds is a `Dict`, so "no key twice" is a field, not a lemma.
-/

namespace MonascaAgent

/-- Exceptions raised by the modelled code. -/
inductive Err where
  | keyError (key : String)
  | indexError
  | valueError
  | transport
  deriving DecidableEq, Repr

/-- A Python `dict` with string keys. -/
@[ext]
structure Dict (α : Type) where
  items : List (String × α)
  nodup : (items.map Prod.fst).Nodup

namespace Dict

variable {α : Type}

instance [DecidableEq α] : DecidableEq (Dict α) := fun a b =>
  decidable_of_iff (a.items = b.items) ⟨Dict.ext, fun h => h ▸ rfl⟩

def empty : Dict α := ⟨[], List.nodup_nil⟩

def keys (d : Dict α) : List String := d.items.map Prod.fst

def lookupKey (k : String) : List (String × α) → Option α
  | [] => none
  | (k', v) :: rest => if k' = k then some v else lookupKey k rest

def get? (d : Dict α) (k : String) : Option α := lookupKey k d.items

/-- Python `k in d`. -/
def contains (d : Dict α) (k : String) : Bool := (d.get? k).isSome

def getItem (d : Dict α) (k : String) : Except Err α :=
  match d.get? k with
  | some v => .ok v
  | none => .error (.keyError k)

def getD (d : Dict α) (k : String) (v : α) : α := (d.get? k).getD v

def setItem (k : String) (v : α) : List (String × α) → List (String × α)
  | [] => [(k, v)]
  | (k', v') :: rest => if k' = k then (k, v) :: rest else (k', v') :: setItem k v rest

theorem keys_setItem (k : String) (v : α) (l : List (String × α)) :
    (setItem k v l).map Prod.fst =
      if k ∈ l.map Prod.fst then l.map Prod.fst else l.map Prod.fst ++ [k] := by
  induction l with
  | nil => simp [setItem]
  | cons p rest ih =>
    obtain ⟨k', v'⟩ := p
    by_cases h : k' = k
    · subst h; simp [setItem]
    · by_cases hk : k ∈ rest.map Prod.fst <;> simp_all [setItem, eq_comm]

theorem nodup_setItem (k : String) (v : α) {l : List (String × α)}
    (h : (l.map Prod.fst).Nodup) : ((setItem k v l).map Prod.fst).Nodup := by
  rw [keys_setItem]
  split
  · exact h
  · exact List.nodup_append.mpr ⟨h, List.nodup_singleton k, List.disjoint_singleton.mpr ‹_›⟩

def insert (d : Dict α) (k : String) (v : α) : Dict α :=
  ⟨setItem k v d.items, nodup_setItem k v d.nodup⟩

def insertAll (d : Dict α) (l : List (String × α)) : Dict α := l.foldl (fun d p => d.insert p.1 p.2) d

/-- Python `d.update(e)`: `e`'s items inserted in `e`'s order. -/
def update (d e : Dict α) : Dict α := d.insertAll e.items

def delItem (d : Dict α) (k : String) : Except Err (Dict α) :=
  if d.contains k then
    .ok ⟨d.items.filter (·.1 ≠ k), List.Nodup.sublist ((List.filter_sublist _).map _) d.nodup⟩
  else .error (.keyError k)

/-! ## Lookup -/

@[simp] theorem get?_empty (k : String) : (empty : Dict α).get? k = none := rfl

theorem lookupKey_setItem (k x : String) (v : α) (l : List (String × α)) :
    lookupKey x (setItem k v l) = if x = k then some v else lookupKey x l := by
  induction l with
  | nil => simp [setItem, lookupKey, eq_comm]
  | cons p rest ih =>
    obtain ⟨k', v'⟩ := p
    by_cases h : k' = k
    · subst h; by_cases hx : x = k' <;> simp [setItem, lookupKey, hx, Ne.symm]
    · by_cases hx : x = k <;> by_cases hx' : x = k' <;> simp_all [setItem, lookupKey, Ne.symm]

@[simp] theorem get?_insert (d : Dict α) (k x : String) (v : α) :
    (d.insert k v).get? x = if x = k then some v else d.get? x :=
  lookupKey_setItem k x v d.items

theorem insert_insert (d : Dict α) (k : String) (v w : α) :
    (d.insert k v).insert k w = d.insert k w := by
  ext1
  show setItem k w (setItem k v d.items) = setItem k w d.items
  induction d.items with
  | nil => simp [setItem]
  | cons p rest ih =>
    obtain ⟨k', v'⟩ := p
    by_cases h : k' = k <;> simp [setItem, h, ih]

theorem lookupKey_append (x : String) (l₁ l₂ : List (String × α)) :
    lookupKey x (l₁ ++ l₂) = (lookupKey x l₁).or (lookupKey x l₂) := by
  induction l₁ with
  | nil => rfl
  | cons p l ih => by_cases h : p.1 = x <;> simp [lookupKey, h, ih]

theorem lookupKey_mem {x : String} {v : α} {l : List (String × α)} (h : lookupKey x l = some v) :
    (x, v) ∈ l := by
  induction l with
  | nil => cases h
  | cons p l ih =>
    obtain ⟨k', v'⟩ := p
    by_cases hk : k' = x
    · subst hk; simp only [lookupKey, ite_true, Option.some.injEq] at h; subst h; simp
    · simp only [lookupKey, if_neg hk] at h; exact List.mem_cons_of_mem _ (ih h)

@[simp] theorem insertAll_nil (d : Dict α) : d.insertAll [] = d := rfl

@[simp] theorem insertAll_cons (d : Dict α) (p : String × α) (l : List (String × α)) :
    d.insertAll (p :: l) = (d.insert p.1 p.2).insertAll l := rfl

theorem insertAll_append (d : Dict α) (l₁ l₂ : List (String × α)) :
    d.insertAll (l₁ ++ l₂) = (d.insertAll l₁).insertAll l₂ := by
  simp [insertAll, List.foldl_append]

theorem get?_insertAll (d : Dict α) (l : List (String × α)) (x : String) :
    (d.insertAll l).get? x = (lookupKey x l.reverse).or (d.get? x) := by
  induction l generalizing d with
  | nil => simp [lookupKey]
  | cons p l ih =>
    rw [insertAll_cons, ih, List.reverse_cons, lookupKey_append, Option.or_assoc, get?_insert]
    by_cases h : x = p.1 <;> simp [lookupKey, h, Ne.symm]

@[simp] theorem contains_iff (d : Dict α) (k : String) :
    d.contains k = true ↔ ∃ v, d.get? k = some v := by
  simp [contains, Option.isSome_iff_exists]

theorem lookupKey_eq_none (k : String) (l : List (String × α)) :
    lookupKey k l = none ↔ k ∉ l.map Prod.fst := by
  induction l with
  | nil => simp [lookupKey]
  | cons p rest ih =>
    obtain ⟨k', v'⟩ := p
    by_cases h : k' = k
    · subst h; simp [lookupKey]
    · simp only [lookupKey, if_neg h, ih, List.map_cons, List.mem_cons, not_or]
      exact ⟨fun h' => ⟨Ne.symm h, h'⟩, And.right⟩

@[simp] theorem get?_update (d e : Dict α) (x : String) :
    (d.update e).get? x = (e.get? x).or (d.get? x) := by
  obtain ⟨items, nd⟩ := e
  simp only [update, insertAll, get?]
  revert nd
  induction items generalizing d with
  | nil => simp [lookupKey]
  | cons p rest ih =>
    intro nd
    simp only [List.map_cons, List.nodup_cons] at nd
    rw [List.foldl_cons, ih _ nd.2]
    by_cases hx : p.1 = x
    · subst hx
      rw [(lookupKey_eq_none _ _).mpr nd.1]
      simp [lookupKey, insert, lookupKey_setItem]
    · simp [lookupKey, hx, insert, lookupKey_setItem, Ne.symm hx]

theorem lookupKey_eq_some_of_forall {x : String} {w : α} {l : List (String × α)}
    (hx : x ∈ l.map Prod.fst) (h : ∀ v, (x, v) ∈ l → v = w) : lookupKey x l = some w := by
  cases hl : lookupKey x l with
  | none => exact absurd hx ((lookupKey_eq_none _ _).mp hl)
  | some v => rw [h v (lookupKey_mem hl)]

theorem mem_keys_iff (d : Dict α) (k : String) : k ∈ d.keys ↔ ∃ v, d.get? k = some v := by
  rw [← Option.isSome_iff_exists, Option.isSome_iff_ne_none, Ne, get?, lookupKey_eq_none,
    not_not, keys]

theorem mem_items_iff (d : Dict α) (k : String) (v : α) :
    (k, v) ∈ d.items ↔ d.get? k = some v := by
  obtain ⟨items, nd⟩ := d
  simp only [get?]
  induction items with
  | nil => simp [lookupKey]
  | cons p rest ih =>
    obtain ⟨k', v'⟩ := p
    simp only [List.map_cons, List.nodup_cons] at nd
    simp only [List.mem_cons, Prod.mk.injEq, lookupKey, ih nd.2]
    by_cases hk : k' = k
    · subst hk
      have : lookupKey k' rest = none := (lookupKey_eq_none _ _).mpr nd.1
      simp [this, eq_comm]
    · simp [hk, Ne.symm hk]

@[simp] theorem getItem_eq_ok (d : Dict α) (k : String) (v : α) :
    d.getItem k = .ok v ↔ d.get? k = some v := by
  unfold getItem; cases d.get? k <;> simp

@[simp] theorem getItem_eq_error (d : Dict α) (k : String) (e : Err) :
    d.getItem k = .error e ↔ d.get? k = none ∧ e = .keyError k := by
  unfold getItem; cases d.get? k <;> simp [eq_comm]

theorem getD_eq (d : Dict α) (k : String) (v : α) : d.getD k v = (d.get? k).getD v := rfl

@[simp] theorem getD_insert (d : Dict α) (k x : String) (v w : α) :
    (d.insert k v).getD x w = if x = k then v else d.getD x w := by
  rw [getD_eq, get?_insert]
  split <;> rfl

theorem mem_keys_insert (d : Dict α) (x : String) (v : α) (k : String) :
    k ∈ (d.insert x v).keys ↔ k = x ∨ k ∈ d.keys := by
  by_cases h : k = x <;> simp [mem_keys_iff, h]

theorem mem_keys_insertAll (d : Dict α) (l : List (String × α)) (k : String) :
    k ∈ (d.insertAll l).keys ↔ k ∈ l.map Prod.fst ∨ k ∈ d.keys := by
  rw [mem_keys_iff, mem_keys_iff, get?_insertAll, ← Option.isSome_iff_exists,
    ← Option.isSome_iff_exists, Option.isSome_or, Bool.or_eq_true, Option.isSome_iff_ne_none,
    Ne, lookupKey_eq_none]
  simp

end Dict

/-- Python `d[key]` on a key the schema makes optional. -/
def optItem {α : Type} (o : Option α) (key : String) : Except Err α :=
  match o with
  | some a => .ok a
  | none => .error (.keyError key)

def pyIndex {α : Type} (xs : List α) (i : Nat) : Except Err α :=
  match xs.get? i with
  | some a => .ok a
  | none => .error .indexError

/-- Python truthiness of a string that may be `None`. -/
def pyTruthy : Option String → Bool
  | some s => s != ""
  | none => false

@[simp] theorem pyTruthy_some (s : String) : pyTruthy (some s) = true ↔ s ≠ "" := by
  simp [pyTruthy]

@[simp] theorem pyTruthy_none : pyTruthy none = false := rfl

/-! ## Strings -/

/-- Python `a in s` for strings: `a` occurs in `s`. -/
def pyContains (a s : String) : Bool := decide (a.toList <:+: s.toList)

/-- The pieces of `s` between left-to-right occurrences of `sep`; `skip` counts the separator
characters still to pass over, `cur` is the current piece reversed. -/
def splitAux (sep : List Char) : List Char → List Char → Nat → List (List Char)
  | [], cur, _ => [cur.reverse]
  | _ :: cs, cur, skip + 1 => splitAux sep cs cur skip
  | c :: cs, cur, 0 =>
    if sep <+: c :: cs then cur.reverse :: splitAux sep cs [] (sep.length - 1)
    else splitAux sep cs (c :: cur) 0

/-- Python `s.split(sep)` for a non-empty `sep`. -/
def pySplit (s sep : String) : List String := (splitAux sep.toList s.toList [] 0).map String.mk

def pyJoin (sep : String) (xs : List String) : String :=
  String.mk (sep.toList.intercalate (xs.map String.toList))

theorem splitAux_single (c : Char) (xs cur : List Char) :
    splitAux [c] xs cur 0 = (xs.splitOn c).modifyHead (cur.reverse ++ ·) := by
  induction xs generalizing cur with
  | nil => simp [splitAux]
  | cons x xs ih =>
    by_cases h : x = c
    · subst h
      simp [splitAux, List.splitOn, List.splitOnP_cons, ih]
      cases xs.splitOnP (· == x) <;> rfl
    · have hp : ¬ [c] <+: x :: xs := by simp [Ne.symm h]
      rw [splitAux, if_neg hp, ih]
      simp only [List.splitOn, List.splitOnP_cons, beq_iff_eq, h, if_false, List.reverse_cons]
      cases hs : xs.splitOnP (· == c) with
      | nil => exact absurd hs (List.splitOnP_ne_nil _ _)
      | cons p ps => simp

theorem pySplit_single (s : String) (c : Char) :
    pySplit s (String.singleton c) = (s.toList.splitOn c).map String.mk := by
  simp only [pySplit, String.singleton, String.push, String.toList, String.data]
  rw [show ("".data ++ [c]) = [c] from rfl, splitAux_single]
  cases hs : s.data.splitOn c with
  | nil => exact absurd hs (List.splitOnP_ne_nil _ _)
  | cons p ps => simp

end MonascaAgent
