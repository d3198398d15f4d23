import EglWayland.Storage
import Mathlib.Data.List.Nodup
import Mathlib.Algebra.Group.Nat.Basic

/-!
# dma-buf format sets

`WlEglDmaBufFormatSet` maps format codes to modifier lists.  It is filled by
`wlEglFormatSetAdd`, both from the `zwp_linux_dmabuf_v1.modifier` event and from the
format table of a feedback tranche, and emptied by `wlEglDestroyFormatSet`.

Over the storage model sits the list of `(format, modifiers)` pairs the set stands for;
`wlEglFormatSetAdd` refines `formatSetAddSpec` on that list as long as no array of the set
is dangling.
-/

namespace EglWayland

structure DmaBufFormat where
  format : UInt32
  -- `numModifiers` and `modifiers`.
  modifiers : CArray UInt64
  deriving DecidableEq, Repr

structure DmaBufFormatSet where
  -- `numFormats` and `dmaBufFormats`.
  dmaBufFormats : CArray DmaBufFormat
  deriving DecidableEq, Repr

namespace CArray

variable {α : Type}

def updateAt (a : CArray α) (i : Nat) (body : α → Except Fault α) : Except Fault (CArray α) :=
  match a with
  | null => .error .nullDeref
  | dangling _ => .error .useAfterFree
  | live xs =>
      match xs[i]? with
      | none => .error .outOfBounds
      | some x => do
          let y ← body x
          pure (live (xs.set i y))

theorem updateAt_live_cons_succ (x : α) (xs : List α) (i : Nat) (body : α → Except Fault α) :
    (live (x :: xs)).updateAt (i + 1) body =
      ((live xs).updateAt i body).map fun a => live (x :: a.elems) := by
  simp only [updateAt, List.getElem?_cons_succ]
  rcases xs[i]? with _ | y
  · rfl
  · dsimp only
    rcases body y with e | z <;> rfl

end CArray

namespace DmaBufFormatSet

def empty : DmaBufFormatSet := ⟨.null⟩

def numFormats (set : DmaBufFormatSet) : Nat := set.dmaBufFormats.count

/-- The format codes with their modifiers, in order: what the set represents. -/
def view (set : DmaBufFormatSet) : List (UInt32 × List UInt64) :=
  set.dmaBufFormats.elems.map fun fmt => (fmt.format, fmt.modifiers.elems)

/-- No array of the set is dangling. -/
def Clean (set : DmaBufFormatSet) : Prop :=
  set.dmaBufFormats.NotDangling ∧ ∀ fmt ∈ set.dmaBufFormats.elems, fmt.modifiers.NotDangling

@[simp] theorem view_empty : empty.view = [] := rfl

theorem clean_empty : empty.Clean := ⟨trivial, fun _ h => by cases h⟩

end DmaBufFormatSet

def formatPairs (fs : List (UInt32 × List UInt64)) : List (UInt32 × UInt64) :=
  fs.flatMap fun fm => fm.2.map fun m => (fm.1, m)

@[simp] theorem mem_formatPairs {fs : List (UInt32 × List UInt64)} {p : UInt32 × UInt64} :
    p ∈ formatPairs fs ↔ ∃ ms, (p.1, ms) ∈ fs ∧ p.2 ∈ ms := by
  obtain ⟨f, m⟩ := p
  simp only [formatPairs, List.mem_flatMap, List.mem_map, Prod.mk.injEq]
  constructor
  · rintro ⟨⟨g, ms⟩, hmem, m', hm', rfl, rfl⟩
    exact ⟨ms, hmem, hm'⟩
  · rintro ⟨ms, hmem, hm⟩
    exact ⟨(f, ms), hmem, m, hm, rfl, rfl⟩

/-!
# The source functions

`updateAt` is `body(&a[i])` for an `i` below the count.  The Bool arguments of the adds answer
the `realloc`s: `ok` that of the modifier array, `okFormats` that of the format array.
-/

def wlEglDestroyFormatSet (set : DmaBufFormatSet) : Except Fault DmaBufFormatSet := do
  set.dmaBufFormats.forEach fun fmt => fmt.modifiers.free >>= fun _ => pure ()
  pure ⟨← set.dmaBufFormats.free⟩

def wlEglDmaBufFormatAddModifier (format : DmaBufFormat) (modifier : UInt64) (ok : Bool) :
    Except Fault DmaBufFormat := do
  match ← format.modifiers.findIdx? (· == modifier) with
  | some _ => pure format
  | none =>
      match ← format.modifiers.append modifier ok with
      | none => pure format
      | some newModifiers => pure { format with modifiers := newModifiers }

/-- `okFormats` and `okModifiers` answer the `realloc` of the format array and of the
modifier array. -/
def wlEglFormatSetAdd (set : DmaBufFormatSet) (format : UInt32) (modifier : UInt64)
    (okFormats okModifiers : Bool) : Except Fault DmaBufFormatSet := do
  match ← set.dmaBufFormats.findIdx? (·.format == format) with
  | some f =>
      pure ⟨← set.dmaBufFormats.updateAt f
        (wlEglDmaBufFormatAddModifier · modifier okModifiers)⟩
  | none =>
      match ← set.dmaBufFormats.append ⟨format, .null⟩ okFormats with
      | none => pure set
      | some newFormats =>
          pure ⟨← newFormats.updateAt set.numFormats
            (wlEglDmaBufFormatAddModifier · modifier okModifiers)⟩

/-!
# The list the set represents

`formatPairs` lists every `(format, modifier)` pair a list of entries stands for.  Past an entry
with another format code adding works on the rest of the array; a new format code grows the
array by one entry, which then gets the modifier.  Destroying a clean set frees each modifier
array and the format array and leaves the count field as it was.
-/

def addModifierSpec (mods : List UInt64) (m : UInt64) (ok : Bool) : List UInt64 :=
  if m ∈ mods ∨ ok = false then mods else mods ++ [m]

def formatSetAddSpec :
    List (UInt32 × List UInt64) → UInt32 → UInt64 → Bool → Bool → List (UInt32 × List UInt64)
  | [], f, m, okF, okM => if okF then [(f, addModifierSpec [] m okM)] else []
  | (g, ms) :: rest, f, m, okF, okM =>
      if g = f then (g, addModifierSpec ms m okM) :: rest
      else (g, ms) :: formatSetAddSpec rest f m okF okM

theorem addModifier_spec {fmt : DmaBufFormat} (h : fmt.modifiers.NotDangling) (m : UInt64)
    (ok : Bool) :
    ∃ fmt', wlEglDmaBufFormatAddModifier fmt m ok = .ok fmt' ∧ fmt'.format = fmt.format ∧
      fmt'.modifiers.NotDangling ∧
      fmt'.modifiers.elems = addModifierSpec fmt.modifiers.elems m ok := by
  obtain ⟨format, mods⟩ := fmt
  cases mods with
  | dangling n => exact h.elim
  | null => cases ok <;> simp [wlEglDmaBufFormatAddModifier, addModifierSpec]
  | live xs =>
      by_cases hm : m ∈ xs
      · have hfind : xs.findIdx? (· == m) = some (xs.findIdx (· == m)) :=
          List.findIdx?_eq_some_of_exists ⟨m, hm, by simp⟩
        simp [wlEglDmaBufFormatAddModifier, hfind, addModifierSpec, hm]
      · have hfind : xs.findIdx? (· == m) = none :=
          List.findIdx?_eq_none_iff.mpr fun x hx => by
            simp only [beq_eq_false_iff_ne, ne_eq]
            rintro rfl
            exact hm hx
        cases ok <;> simp [wlEglDmaBufFormatAddModifier, hfind, addModifierSpec, hm]

theorem wlEglFormatSetAdd_cons_of_ne {x : DmaBufFormat} {f : UInt32} (hx : x.format ≠ f)
    (xs : List DmaBufFormat) (m : UInt64) (okF okM : Bool) :
    wlEglFormatSetAdd ⟨.live (x :: xs)⟩ f m okF okM =
      (wlEglFormatSetAdd ⟨.live xs⟩ f m okF okM).map
        fun set => ⟨.live (x :: set.dmaBufFormats.elems)⟩ := by
  have hp : (x.format == f) = false := beq_false_of_ne hx
  simp only [wlEglFormatSetAdd, CArray.findIdx?_live, List.findIdx?_cons, hp,
    Bool.false_eq_true, ↓reduceIte, List.findIdx?_succ, except_ok_bind]
  generalize List.findIdx? (fun x : DmaBufFormat => x.format == f) xs = j
  rcases j with _ | j
  · cases okF
    · rfl
    · simp only [Option.map_none', CArray.append_live, ↓reduceIte, except_ok_bind,
        List.cons_append, DmaBufFormatSet.numFormats, CArray.count_live, List.length_cons,
        CArray.updateAt_live_cons_succ]
      cases (CArray.live (xs ++ [⟨f, .null⟩])).updateAt xs.length
        (fun y => wlEglDmaBufFormatAddModifier y m okM) <;> rfl
  · simp only [Option.map_some', CArray.updateAt_live_cons_succ]
    cases (CArray.live xs).updateAt j (fun y => wlEglDmaBufFormatAddModifier y m okM) <;> rfl

theorem wlEglFormatSetAdd_new_entry {f : UInt32} (m : UInt64) (okM : Bool) :
    ∃ fmt, wlEglDmaBufFormatAddModifier ⟨f, .null⟩ m okM = .ok fmt ∧ fmt.format = f ∧
      fmt.modifiers.NotDangling ∧ fmt.modifiers.elems = addModifierSpec [] m okM :=
  @addModifier_spec ⟨f, .null⟩ trivial m okM

theorem wlEglFormatSetAdd_live {xs : List DmaBufFormat}
    (h : ∀ fmt ∈ xs, fmt.modifiers.NotDangling) (f : UInt32) (m : UInt64) (okF okM : Bool) :
    ∃ ys, wlEglFormatSetAdd ⟨.live xs⟩ f m okF okM = .ok ⟨.live ys⟩ ∧
      (∀ fmt ∈ ys, fmt.modifiers.NotDangling) ∧
      DmaBufFormatSet.view ⟨.live ys⟩ =
        formatSetAddSpec (DmaBufFormatSet.view ⟨.live xs⟩) f m okF okM := by
  induction xs with
  | nil =>
      obtain ⟨fmt, hadd, hf, hnd, helems⟩ := @wlEglFormatSetAdd_new_entry f m okM
      cases okF
      · exact ⟨[], rfl, by simp, rfl⟩
      · refine ⟨[fmt], ?_, by simpa using hnd, ?_⟩
        · simp [wlEglFormatSetAdd, DmaBufFormatSet.numFormats, CArray.updateAt, hadd]
        · simp [DmaBufFormatSet.view, formatSetAddSpec, hf, helems]
  | cons x xs ih =>
      by_cases hx : x.format = f
      · obtain ⟨fmt, hadd, hf, hnd, helems⟩ := addModifier_spec (h x (by simp)) m okM
        refine ⟨fmt :: xs, ?_, ?_, ?_⟩
        · simp [wlEglFormatSetAdd, hx, CArray.updateAt, hadd]
        · simp only [List.mem_cons, forall_eq_or_imp]
          exact ⟨hnd, fun y hy => h y (by simp [hy])⟩
        · simp [DmaBufFormatSet.view, formatSetAddSpec, hx, hf, helems]
      · obtain ⟨ys, hys, hnd, hview⟩ := ih fun y hy => h y (by simp [hy])
        refine ⟨x :: ys, by rw [wlEglFormatSetAdd_cons_of_ne hx, hys]; rfl, ?_, ?_⟩
        · simp only [List.mem_cons, forall_eq_or_imp]
          exact ⟨h x (by simp), hnd⟩
        · simp only [DmaBufFormatSet.view, CArray.elems_live, List.map_cons] at hview ⊢
          simp [formatSetAddSpec, hx, hview]

/-- On a set with no dangling array, `wlEglFormatSetAdd` never faults, keeps the set
clean, and changes what it represents as `formatSetAddSpec` says. -/
theorem wlEglFormatSetAdd_spec {set : DmaBufFormatSet} (h : set.Clean) (f : UInt32)
    (m : UInt64) (okF okM : Bool) :
    ∃ set', wlEglFormatSetAdd set f m okF okM = .ok set' ∧ set'.Clean ∧
      set'.view = formatSetAddSpec set.view f m okF okM := by
  obtain ⟨formats⟩ := set
  cases formats with
  | dangling n => exact h.1.elim
  | null =>
      obtain ⟨fmt, hadd, hf, hnd, helems⟩ := @wlEglFormatSetAdd_new_entry f m okM
      cases okF
      · exact ⟨⟨.null⟩, rfl, h, rfl⟩
      · refine ⟨⟨.live [fmt]⟩, ?_, ⟨trivial, by simpa using hnd⟩, ?_⟩
        · simp [wlEglFormatSetAdd, DmaBufFormatSet.numFormats, CArray.updateAt, hadd]
        · simp [DmaBufFormatSet.view, formatSetAddSpec, hf, helems]
  | live xs =>
      obtain ⟨ys, hys, hnd, hview⟩ := wlEglFormatSetAdd_live h.2 f m okF okM
      exact ⟨⟨.live ys⟩, hys, ⟨trivial, hnd⟩, hview⟩

theorem free_discard_of_notDangling {α : Type} {a : CArray α} (h : a.NotDangling) :
    (a.free >>= fun _ => pure ()) = (.ok () : Except Fault Unit) := by
  cases a with
  | null => rfl
  | live xs => rfl
  | dangling n => exact h.elim

@[simp] theorem wlEglDestroyFormatSet_empty :
    wlEglDestroyFormatSet .empty = .ok .empty := rfl

theorem wlEglDestroyFormatSet_of_clean {set : DmaBufFormatSet} (h : set.Clean) :
    wlEglDestroyFormatSet set = set.dmaBufFormats.free.map DmaBufFormatSet.mk := by
  have hloop : set.dmaBufFormats.forEach (fun fmt => fmt.modifiers.free >>= fun _ => pure ()) =
      .ok () :=
    CArray.forEach_eq_ok h.1 fun fmt hfmt => free_discard_of_notDangling (h.2 fmt hfmt)
  obtain ⟨formats⟩ := set
  cases formats with
  | dangling n => exact h.1.elim
  | null => rfl
  | live xs => simp only [wlEglDestroyFormatSet, hloop, except_ok_bind]; rfl

@[simp] theorem formatPairs_nil : formatPairs [] = [] := rfl

@[simp] theorem formatPairs_cons (g : UInt32) (ms : List UInt64)
    (rest : List (UInt32 × List UInt64)) :
    formatPairs ((g, ms) :: rest) = ms.map (fun m => (g, m)) ++ formatPairs rest := rfl

theorem mem_addModifierSpec_true {ms : List UInt64} {m x : UInt64} :
    x ∈ addModifierSpec ms m true ↔ x ∈ ms ∨ x = m := by
  by_cases hm : m ∈ ms
  · simp only [addModifierSpec, hm, true_or, ↓reduceIte, iff_self_or]
    rintro rfl
    exact hm
  · simp [addModifierSpec, hm]

theorem mem_formatPairs_formatSetAddSpec (fs : List (UInt32 × List UInt64)) (f : UInt32)
    (m : UInt64) (p : UInt32 × UInt64) :
    p ∈ formatPairs (formatSetAddSpec fs f m true true) ↔ p ∈ formatPairs fs ∨ p = (f, m) := by
  obtain ⟨pf, pm⟩ := p
  induction fs with
  | nil => simp [formatSetAddSpec, addModifierSpec]
  | cons gms rest ih =>
      obtain ⟨g, ms⟩ := gms
      by_cases hg : g = f
      · subst hg
        simp only [formatSetAddSpec, ↓reduceIte, formatPairs_cons, List.mem_append,
          List.mem_map, mem_addModifierSpec_true, Prod.mk.injEq]
        constructor
        · rintro (⟨x, hx | rfl, rfl, rfl⟩ | hr)
          · exact .inl (.inl ⟨x, hx, rfl, rfl⟩)
          · exact .inr ⟨rfl, rfl⟩
          · exact .inl (.inr hr)
        · rintro ((⟨x, hx, rfl, rfl⟩ | hr) | ⟨rfl, rfl⟩)
          · exact .inl ⟨x, .inl hx, rfl, rfl⟩
          · exact .inr hr
          · exact .inl ⟨pm, .inr rfl, rfl, rfl⟩
      · simp only [formatSetAddSpec, hg, ↓reduceIte, formatPairs_cons, List.mem_append, ih]
        tauto

/-!
# Sequences of adds

`dmabuf_handle_modifier` adds the modifier `mod_hi * 2^32 + mod_lo`, and `formatSetAddAll` calls
`wlEglFormatSetAdd` once for each pair of a sequence.  `addSucceeds` says whether every
`realloc` of one add succeeds.  One add changes the list by at most one appended entry or
modifier (`AppendsAtMostOne`), and puts its pair in exactly when it meets no failed `realloc`.
-/

def dmabufHandleModifier (set : DmaBufFormatSet) (format modHi modLo : UInt32)
    (okFormats okModifiers : Bool) : Except Fault DmaBufFormatSet :=
  wlEglFormatSetAdd set format ((modHi.toUInt64 <<< 32) ||| modLo.toUInt64) okFormats okModifiers

theorem dmabufHandleModifier_modifier (modHi modLo : UInt32) :
    ((modHi.toUInt64 <<< 32) ||| modLo.toUInt64).toNat = modHi.toNat * 2 ^ 32 + modLo.toNat := by
  have hhi : modHi.toNat < 2 ^ 32 := modHi.toNat_lt_size
  have hshift : (modHi.toUInt64 <<< 32).toNat = 2 ^ 32 * modHi.toNat := by
    show (modHi.toUInt64.toBitVec <<< (32 : UInt64).toBitVec).toNat = _
    rw [BitVec.shiftLeft_eq', BitVec.toNat_shiftLeft]
    show modHi.toNat <<< 32 % 2 ^ 64 = _
    rw [Nat.shiftLeft_eq, Nat.mod_eq_of_lt (by omega)]
    omega
  show ((modHi.toUInt64 <<< 32).toBitVec ||| modLo.toUInt64.toBitVec).toNat = _
  rw [BitVec.toNat_or]
  show (modHi.toUInt64 <<< 32).toNat ||| modLo.toNat = _
  rw [hshift, ← Nat.mul_add_lt_is_or modLo.toNat_lt_size]
  omega

def formatSetAddAll (set : DmaBufFormatSet) :
    List (UInt32 × UInt64 × Bool × Bool) → Except Fault DmaBufFormatSet
  | [] => .ok set
  | (f, m, okF, okM) :: rest => do formatSetAddAll (← wlEglFormatSetAdd set f m okF okM) rest

/-- The invariant of the list a set represents: the format codes are pairwise distinct, and
so are the modifiers of each format. -/
def FormatsDistinct (fs : List (UInt32 × List UInt64)) : Prop :=
  (fs.map Prod.fst).Nodup ∧ ∀ fm ∈ fs, fm.2.Nodup

def addSucceeds : List (UInt32 × List UInt64) → UInt32 → UInt64 → Bool → Bool → Bool
  | [], _, _, okF, okM => okF && okM
  | (g, ms) :: rest, f, m, okF, okM =>
      if g = f then decide (m ∈ ms) || okM else addSucceeds rest f m okF okM

/-- The pairs the adds of a sequence put in the set: the pair of each add that meets no
failed `realloc`. -/
def addedPairs : List (UInt32 × List UInt64) → List (UInt32 × UInt64 × Bool × Bool) →
    List (UInt32 × UInt64)
  | _, [] => []
  | fs, (f, m, okF, okM) :: rest =>
      (if addSucceeds fs f m okF okM then [(f, m)] else []) ++
        addedPairs (formatSetAddSpec fs f m okF okM) rest

def AppendsAtMostOne (fs fs' : List (UInt32 × List UInt64)) (f : UInt32) (m : UInt64) : Prop :=
  fs' = fs ∨ fs' = fs ++ [(f, [])] ∨ fs' = fs ++ [(f, [m])] ∨
    ∃ l r ms, fs = l ++ (f, ms) :: r ∧ fs' = l ++ (f, ms ++ [m]) :: r

theorem mem_addModifierSpec {ms : List UInt64} {m x : UInt64} {ok : Bool} :
    x ∈ addModifierSpec ms m ok ↔ x ∈ ms ∨ x = m ∧ ok = true := by
  by_cases hm : m ∈ ms
  · simp only [addModifierSpec, hm, true_or, ↓reduceIte, iff_self_or, and_imp]
    rintro rfl _
    exact hm
  · cases ok <;> simp [addModifierSpec, hm]

theorem formatSetAddSpec_cases (fs : List (UInt32 × List UInt64)) (f : UInt32) (m : UInt64)
    (okF okM : Bool) :
    formatSetAddSpec fs f m okF okM = fs ∨
      f ∉ fs.map Prod.fst ∧ (formatSetAddSpec fs f m okF okM = fs ++ [(f, [])] ∨
        formatSetAddSpec fs f m okF okM = fs ++ [(f, [m])]) ∨
      ∃ l r ms, m ∉ ms ∧ fs = l ++ (f, ms) :: r ∧
        formatSetAddSpec fs f m okF okM = l ++ (f, ms ++ [m]) :: r := by
  induction fs with
  | nil => cases okF <;> cases okM <;> simp [formatSetAddSpec, addModifierSpec]
  | cons gms rest ih =>
      obtain ⟨g, ms⟩ := gms
      by_cases hg : g = f
      · subst hg
        by_cases hkeep : m ∈ ms ∨ okM = false
        · simp [formatSetAddSpec, addModifierSpec, hkeep]
        · simp only [not_or, Bool.not_eq_false] at hkeep
          exact .inr (.inr ⟨[], rest, ms, hkeep.1, rfl, by
            simp [formatSetAddSpec, addModifierSpec, hkeep]⟩)
      · simp only [formatSetAddSpec, hg, ↓reduceIte]
        rcases ih with h | ⟨hf, h | h⟩ | ⟨l, r, ms', hm, rfl, h⟩ <;> rw [h]
        · exact .inl rfl
        · exact .inr (.inl ⟨by simp [Ne.symm hg, hf], .inl rfl⟩)
        · exact .inr (.inl ⟨by simp [Ne.symm hg, hf], .inr rfl⟩)
        · exact .inr (.inr ⟨(g, ms) :: l, r, ms', hm, rfl, rfl⟩)

theorem appendsAtMostOne_formatSetAddSpec (fs : List (UInt32 × List UInt64)) (f : UInt32)
    (m : UInt64) (okF okM : Bool) :
    AppendsAtMostOne fs (formatSetAddSpec fs f m okF okM) f m := by
  rcases formatSetAddSpec_cases fs f m okF okM with h | ⟨-, h | h⟩ | ⟨l, r, ms, -, h, h'⟩
  · exact .inl h
  · exact .inr (.inl h)
  · exact .inr (.inr (.inl h))
  · exact .inr (.inr (.inr ⟨l, r, ms, h, h'⟩))

theorem formatsDistinct_append_entry {fs : List (UInt32 × List UInt64)} (h : FormatsDistinct fs)
    {f : UInt32} (hf : f ∉ fs.map Prod.fst) {ms : List UInt64} (hms : ms.Nodup) :
    FormatsDistinct (fs ++ [(f, ms)]) := by
  refine ⟨?_, fun fm hfm => ?_⟩
  · rw [List.map_append]
    exact List.nodup_append.2 ⟨h.1, List.nodup_singleton f, by simpa using hf⟩
  · rcases List.mem_append.1 hfm with hfm | hfm
    · exact h.2 fm hfm
    · rw [List.mem_singleton.1 hfm]
      exact hms

theorem formatsDistinct_formatSetAddSpec {fs : List (UInt32 × List UInt64)}
    (h : FormatsDistinct fs) (f : UInt32) (m : UInt64) (okF okM : Bool) :
    FormatsDistinct (formatSetAddSpec fs f m okF okM) := by
  rcases formatSetAddSpec_cases fs f m okF okM with h' | ⟨hf, h' | h'⟩ | ⟨l, r, ms, hm, rfl, h'⟩ <;>
    rw [h']
  · exact h
  · exact formatsDistinct_append_entry h hf List.nodup_nil
  · exact formatsDistinct_append_entry h hf (List.nodup_singleton m)
  · refine ⟨by simpa using h.1, fun fm hfm => ?_⟩
    simp only [List.mem_append, List.mem_cons] at hfm
    rcases hfm with hfm | rfl | hfm
    · exact h.2 fm (by simp [hfm])
    · exact List.nodup_append.2 ⟨h.2 (f, ms) (by simp), List.nodup_singleton m, by simpa using hm⟩
    · exact h.2 fm (by simp [hfm])

theorem mem_formatPairs_formatSetAddSpec_iff (fs : List (UInt32 × List UInt64)) (f : UInt32)
    (m : UInt64) (okF okM : Bool) (p : UInt32 × UInt64) :
    p ∈ formatPairs (formatSetAddSpec fs f m okF okM) ↔
      p ∈ formatPairs fs ∨ p = (f, m) ∧ addSucceeds fs f m okF okM = true := by
  obtain ⟨pf, pm⟩ := p
  induction fs with
  | nil => cases okF <;> cases okM <;> simp [formatSetAddSpec, addModifierSpec, addSucceeds]
  | cons gms rest ih =>
      obtain ⟨g, ms⟩ := gms
      by_cases hg : g = f
      · subst hg
        simp only [formatSetAddSpec, addSucceeds, ↓reduceIte, formatPairs_cons,
          List.mem_append, List.mem_map, mem_addModifierSpec, Prod.mk.injEq, Bool.or_eq_true,
          decide_eq_true_eq]
        constructor
        · rintro (⟨x, hx | ⟨rfl, hok⟩, rfl, rfl⟩ | hr)
          · exact .inl (.inl ⟨x, hx, rfl, rfl⟩)
          · exact .inr ⟨⟨rfl, rfl⟩, .inr hok⟩
          · exact .inl (.inr hr)
        · rintro ((⟨x, hx, rfl, rfl⟩ | hr) | ⟨⟨rfl, rfl⟩, hok⟩)
          · exact .inl ⟨x, .inl hx, rfl, rfl⟩
          · exact .inr hr
          · rcases hok with hx | hok
            · exact .inl ⟨pm, .inl hx, rfl, rfl⟩
            · exact .inl ⟨pm, .inr ⟨rfl, hok⟩, rfl, rfl⟩
      · simp only [formatSetAddSpec, addSucceeds, hg, ↓reduceIte, formatPairs_cons,
          List.mem_append, ih]
        tauto

@[simp] theorem addedPairs_nil (fs : List (UInt32 × List UInt64)) : addedPairs fs [] = [] := rfl

theorem formatSetAddAll_cons (set : DmaBufFormatSet) (f : UInt32) (m : UInt64) (okF okM : Bool)
    (rest : List (UInt32 × UInt64 × Bool × Bool)) :
    formatSetAddAll set ((f, m, okF, okM) :: rest) =
      wlEglFormatSetAdd set f m okF okM >>= fun set => formatSetAddAll set rest := rfl

/-- A run of adds on a clean set whose list has distinct formats and modifiers never faults,
keeps both invariants, and adds to the pairs exactly those of the adds that meet no failed
`realloc`. -/
theorem formatSetAddAll_spec : ∀ (ops : List (UInt32 × UInt64 × Bool × Bool))
    {set : DmaBufFormatSet}, set.Clean → FormatsDistinct set.view →
    ∃ set', formatSetAddAll set ops = .ok set' ∧ set'.Clean ∧ FormatsDistinct set'.view ∧
      ∀ p, p ∈ formatPairs set'.view ↔ p ∈ formatPairs set.view ∨ p ∈ addedPairs set.view ops
  | [], set, hc, hd => ⟨set, rfl, hc, hd, by simp⟩
  | (f, m, okF, okM) :: rest, set, hc, hd => by
      obtain ⟨set₁, h₁, hc₁, hv₁⟩ := wlEglFormatSetAdd_spec hc f m okF okM
      obtain ⟨set', h', hc', hd', hp'⟩ :=
        formatSetAddAll_spec rest hc₁ (hv₁ ▸ formatsDistinct_formatSetAddSpec hd f m okF okM)
      refine ⟨set', by rw [formatSetAddAll_cons, h₁]; exact h', hc', hd', fun p => ?_⟩
      rw [hp', hv₁, mem_formatPairs_formatSetAddSpec_iff, addedPairs, List.mem_append]
      cases addSucceeds set.view f m okF okM <;>
        simp only [↓reduceIte, Bool.false_eq_true, List.not_mem_nil, List.mem_singleton, and_true,
          and_false, false_or, or_false]
      tauto

/-- From the empty set, any sequence of adds, under any pattern of `realloc` failures,
never faults; the formats stay pairwise distinct and so do the modifiers of each; the set
holds exactly the pairs of the adds that met no failed `realloc`; and the next add appends
at most one entry or one modifier. -/
theorem formatSetAddAll_from_empty (ops : List (UInt32 × UInt64 × Bool × Bool)) :
    ∃ set, formatSetAddAll .empty ops = .ok set ∧ FormatsDistinct set.view ∧
      (∀ p, p ∈ formatPairs set.view ↔ p ∈ addedPairs [] ops) ∧
      ∀ f m okF okM, ∃ set', wlEglFormatSetAdd set f m okF okM = .ok set' ∧
        AppendsAtMostOne set.view set'.view f m := by
  obtain ⟨set, hrun, hc, hd, hp⟩ := formatSetAddAll_spec ops DmaBufFormatSet.clean_empty
    ⟨List.nodup_nil, fun _ h => by cases h⟩
  refine ⟨set, hrun, hd, fun p => by simpa using hp p, fun f m okF okM => ?_⟩
  obtain ⟨set', hadd, -, hv⟩ := wlEglFormatSetAdd_spec hc f m okF okM
  exact ⟨set', hadd, hv ▸ appendsAtMostOne_formatSetAddSpec set.view f m okF okM⟩

-- An add whose modifier `realloc` failed leaves an empty entry; a later add of the same
-- pair fills it.
example : (formatSetAddAll .empty [(1, 5, true, false), (1, 5, true, true)]).map
    DmaBufFormatSet.view = .ok [(1, [5])] := rfl

end EglWayland
