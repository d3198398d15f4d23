import Mathlib.Logic.Basic
import Mathlib.Data.List.Basic

/-!
# Heap arrays as the C structures hold them

The dma-buf containers of `wayland-egldisplay.c` keep each growable array as two
fields, a pointer and an element count, grown with `realloc` and released with
`free`.  This module models such a pair by the three shapes the code can give it, and
the operations the code performs on it: the scan loops, `realloc` followed by a store at
the old count, and `free`, which leaves both fields as they were.

Anything the C language leaves undefined (reading or reallocating released storage, a
second `free`, dereferencing `NULL`) or that aborts the process (a failed `assert`) ends
a run with a `Fault`.
-/

namespace EglWayland

inductive Fault where
  | useAfterFree
  | doubleFree
  | nullDeref
  | outOfBounds
  | assertFailed
  deriving DecidableEq, Repr

/-!
## Except in one direction
-/

@[simp] theorem except_ok_bind {ε α β : Type} (a : α) (f : α → Except ε β) :
    (Except.ok a >>= f) = f a := rfl

@[simp] theorem except_error_bind {ε α β : Type} (e : ε) (f : α → Except ε β) :
    (Except.error e >>= f) = Except.error e := rfl

@[simp] theorem except_pure {ε α : Type} (a : α) : (pure a : Except ε α) = .ok a := rfl

theorem except_bind_eq_ok {ε α β : Type} {x : Except ε α} {f : α → Except ε β} {b : β} :
    x >>= f = .ok b ↔ ∃ a, x = .ok a ∧ f a = .ok b := by
  cases x <;> simp

theorem except_bind_eq_error {ε α β : Type} {x : Except ε α} {f : α → Except ε β} {e : ε} :
    x >>= f = .error e ↔ x = .error e ∨ ∃ a, x = .ok a ∧ f a = .error e := by
  cases x <;> simp

theorem except_map_eq_ok {ε α β : Type} {x : Except ε α} {f : α → β} {b : β} :
    x.map f = .ok b ↔ ∃ a, x = .ok a ∧ f a = b := by
  cases x <;> simp [Except.map]

/-!
## Pointer and count

`liveLength` is the number of elements the pointer reaches in live storage, `elems` the elements
a reader of the array sees, and `free` is `free(p)`, which does nothing on `NULL`.  A released
array is consistent only when its count was already `0`; appending to storage that is not
dangling succeeds and keeps it live.
-/

/-- A pointer field together with its count field: `null` is the zeroed pair, `live xs`
points at live storage holding `xs` (the count reads `xs.length`), and `dangling n` is a
pointer whose storage was released while the count still reads `n`. -/
inductive CArray (α : Type) where
  | null
  | live (elems : List α)
  | dangling (count : Nat)
  deriving DecidableEq, Repr

namespace CArray

variable {α : Type}

def count : CArray α → Nat
  | null => 0
  | live xs => xs.length
  | dangling n => n

def liveLength : CArray α → Nat
  | null => 0
  | live xs => xs.length
  | dangling _ => 0

def elems : CArray α → List α
  | live xs => xs
  | _ => []

/-- The representation invariant: the count field is the length of the live storage
(`0` when the pointer is `NULL` or its storage has been released). -/
def Consistent (a : CArray α) : Prop :=
  a.count = a.liveLength

instance (a : CArray α) : Decidable a.Consistent :=
  inferInstanceAs (Decidable (a.count = a.liveLength))

def free : CArray α → Except Fault (CArray α)
  | null => .ok null
  | live xs => .ok (dangling xs.length)
  | dangling _ => .error .doubleFree

/-- `for (i = 0; i < count; i++) if (p(a[i])) ...`: the first index whose element
satisfies `p`, reading the elements in order. -/
def findIdx? (a : CArray α) (p : α → Bool) : Except Fault (Option Nat) :=
  match a with
  | null => .ok none
  | live xs => .ok (xs.findIdx? p)
  | dangling 0 => .ok none
  | dangling (_ + 1) => .error .useAfterFree

/-- `for (i = 0; i < count; i++) body(a[i])`, for a body whose only effect is outside
the array (it releases what the element points to). -/
def forEach (a : CArray α) (body : α → Except Fault Unit) : Except Fault Unit :=
  match a with
  | null => .ok ()
  | live xs => xs.forM body
  | dangling 0 => .ok ()
  | dangling (_ + 1) => .error .useAfterFree

/-- `q = realloc(p, (count + 1) * size)` followed by `q[count] = x`: `none` when
`realloc` returns `NULL` (`ok = false`), which leaves the old storage in place. -/
def append (a : CArray α) (x : α) (ok : Bool) : Except Fault (Option (CArray α)) :=
  match a with
  | dangling _ => .error .useAfterFree
  | null => .ok (if ok then some (live [x]) else none)
  | live xs => .ok (if ok then some (live (xs ++ [x])) else none)

@[simp] theorem count_null : (null : CArray α).count = 0 := rfl
@[simp] theorem count_live (xs : List α) : (live xs).count = xs.length := rfl
@[simp] theorem count_dangling (n : Nat) : (dangling n : CArray α).count = n := rfl
@[simp] theorem liveLength_null : (null : CArray α).liveLength = 0 := rfl
@[simp] theorem liveLength_live (xs : List α) : (live xs).liveLength = xs.length := rfl
@[simp] theorem liveLength_dangling (n : Nat) : (dangling n : CArray α).liveLength = 0 := rfl
@[simp] theorem elems_null : (null : CArray α).elems = [] := rfl
@[simp] theorem elems_live (xs : List α) : (live xs).elems = xs := rfl
@[simp] theorem elems_dangling (n : Nat) : (dangling n : CArray α).elems = [] := rfl
@[simp] theorem free_null : (null : CArray α).free = .ok null := rfl
@[simp] theorem free_live (xs : List α) : (live xs).free = .ok (dangling xs.length) := rfl
@[simp] theorem free_dangling (n : Nat) : (dangling n : CArray α).free = .error .doubleFree :=
  rfl
@[simp] theorem findIdx?_null (p : α → Bool) : (null : CArray α).findIdx? p = .ok none := rfl
@[simp] theorem findIdx?_live (xs : List α) (p : α → Bool) :
    (live xs).findIdx? p = .ok (xs.findIdx? p) := rfl
@[simp] theorem forEach_null (body : α → Except Fault Unit) :
    (null : CArray α).forEach body = .ok () := rfl
@[simp] theorem forEach_live (xs : List α) (body : α → Except Fault Unit) :
    (live xs).forEach body = xs.forM body := rfl
@[simp] theorem append_null (x : α) (ok : Bool) :
    (null : CArray α).append x ok = .ok (if ok then some (live [x]) else none) := rfl
@[simp] theorem append_live (xs : List α) (x : α) (ok : Bool) :
    (live xs).append x ok = .ok (if ok then some (live (xs ++ [x])) else none) := rfl
@[simp] theorem append_dangling (n : Nat) (x : α) (ok : Bool) :
    (dangling n : CArray α).append x ok = .error .useAfterFree := rfl

/-- Storage that is not dangling: `NULL` or a live allocation. -/
def NotDangling : CArray α → Prop
  | dangling _ => False
  | _ => True

@[simp] theorem notDangling_null : (null : CArray α).NotDangling := trivial
@[simp] theorem notDangling_live (xs : List α) : (live xs).NotDangling := trivial
@[simp] theorem not_notDangling_dangling (n : Nat) : ¬(dangling n : CArray α).NotDangling :=
  id

theorem consistent_of_notDangling {a : CArray α} (h : a.NotDangling) : a.Consistent := by
  cases a with
  | null => rfl
  | live xs => rfl
  | dangling n => exact h.elim

theorem consistent_dangling_iff (n : Nat) : (dangling n : CArray α).Consistent ↔ n = 0 :=
  Iff.rfl

theorem forM_eq_ok {xs : List α} {body : α → Except Fault Unit}
    (hbody : ∀ x ∈ xs, body x = .ok ()) : xs.forM body = .ok () := by
  induction xs with
  | nil => rfl
  | cons x xs ih =>
      simp only [List.mem_cons, forall_eq_or_imp] at hbody
      simp [hbody.1, ih hbody.2]

theorem forEach_eq_ok {a : CArray α} (h : a.NotDangling) {body : α → Except Fault Unit}
    (hbody : ∀ x ∈ a.elems, body x = .ok ()) : a.forEach body = .ok () := by
  cases a with
  | null => rfl
  | dangling n => exact h.elim
  | live xs => exact forM_eq_ok hbody

theorem append_of_notDangling {a : CArray α} (h : a.NotDangling) (x : α) :
    a.append x true = .ok (some (live (a.elems ++ [x]))) := by
  cases a with
  | null => rfl
  | live xs => rfl
  | dangling n => exact h.elim

end CArray

/-!
## Mappings and protocol objects

A `MapAddr` is an address handed to `munmap`: `NULL`, `MAP_FAILED`, or the start of a mapping.
`destroyProxy` is `wl_proxy_destroy`, through the generated `*_destroy` wrappers.
-/

inductive MapAddr where
  | null
  | mapFailed
  | region (addr : Nat)
  deriving DecidableEq, Repr

/-- The process-wide resources the dma-buf code maps and unmaps, creates and destroys:
the start addresses of the live memory mappings, every `munmap` call made so far (its
address and length, oldest first), and the live Wayland proxies. -/
structure Proc where
  mapped : List Nat
  munmaps : List (MapAddr × Nat)
  proxies : List Nat
  deriving DecidableEq, Repr

namespace Proc

/-- `munmap(addr, length)`: a call on anything but a live mapping changes no mapping. -/
def munmap (p : Proc) (addr : MapAddr) (length : Nat) : Proc :=
  { p with
    mapped := match addr with
      | .region a => p.mapped.erase a
      | _ => p.mapped
    munmaps := p.munmaps ++ [(addr, length)] }

def destroyProxy (p : Proc) (proxy : Nat) : Except Fault Proc :=
  if proxy ∈ p.proxies then .ok { p with proxies := p.proxies.erase proxy }
  else .error .useAfterFree

end Proc

end EglWayland
