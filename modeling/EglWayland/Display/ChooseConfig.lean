import EglWayland.Display.State

/-!
# The attribute list of `wlEglChooseConfigHook`

Configurations of the driver support `EGL_WINDOW_BIT` only through EGLStreams, so the hook
hands the driver's `eglChooseConfig` a copy of the caller's list in which window requests
are stream requests: every `EGL_SURFACE_TYPE` value that asks for windows asks for streams
instead, and a list without `EGL_SURFACE_TYPE` gets `EGL_SURFACE_TYPE, EGL_STREAM_BIT_KHR`
appended, the default `EGL_WINDOW_BIT` being replaced.

The hook counts the caller's entries, `malloc`s room for the copy, the added pair and the
terminator, copies the entries and then rewrites the copy in place.  Entries are `EGLint`s,
`BitVec 32` here.  The block `malloc` returns holds whatever was left in it, given as an
arbitrary `garbage`, and every read or store past the end of a block faults.
-/

namespace EglWayland
namespace Display

open EglState

/-!
# The entries and the stores

`EGL_NONE`, `EGL_SURFACE_TYPE` and `EGL_DONT_CARE` are `EGLint` entries here.  `writeAt` is
`attribs2[i] = v` on a block of `a.length` entries, `memcpyEntries` is `memcpy` of `n` entries
between blocks that both hold them, and `mallocEntries` is a block fresh from `malloc`.
-/

def noneEntry : BitVec 32 := BitVec.ofInt 32 eglNone
def surfaceTypeEntry : BitVec 32 := BitVec.ofInt 32 eglSurfaceType
def eglDontCare : BitVec 32 := BitVec.ofInt 32 (-1)

@[simp] theorem surfaceTypeEntry_ne_noneEntry : surfaceTypeEntry ≠ noneEntry := by decide
@[simp] theorem eglStreamBitKhr_ne_noneEntry : eglStreamBitKhr ≠ noneEntry := by decide

def writeAt (a : List (BitVec 32)) (i : Nat) (v : BitVec 32) : Except Fault (List (BitVec 32)) :=
  if i < a.length then .ok (a.set i v) else .error .outOfBounds

def memcpyEntries (dst src : List (BitVec 32)) (n : Nat) : Except Fault (List (BitVec 32)) :=
  if n ≤ dst.length ∧ n ≤ src.length then .ok (src.take n ++ dst.drop n) else .error .outOfBounds

def mallocEntries (garbage : Nat → BitVec 32) (n : Nat) : List (BitVec 32) :=
  (List.range n).map garbage

@[simp] theorem length_mallocEntries (garbage : Nat → BitVec 32) (n : Nat) :
    (mallocEntries garbage n).length = n := by
  simp [mallocEntries]

theorem writeAt_append {l r : List (BitVec 32)} {i k : Nat} (v : BitVec 32)
    (hk : l.length + i = k) (hi : i < r.length) : writeAt (l ++ r) k v = .ok (l ++ r.set i v) := by
  subst hk
  rw [writeAt, if_pos (by simp only [List.length_append]; omega),
    List.set_append_right _ _ (Nat.le_add_right _ _), Nat.add_sub_cancel_left]

theorem copyAttribs_eq (ps : List (BitVec 32 × BitVec 32)) (ys blk : List (BitVec 32))
    (hblk : 2 * ps.length ≤ blk.length) :
    (if 0 < 2 * ps.length then memcpyEntries blk (attribArray ps ++ noneEntry :: ys)
      (2 * ps.length) else pure blk) = .ok (attribArray ps ++ blk.drop (2 * ps.length)) := by
  split
  · rw [memcpyEntries, if_pos ⟨hblk, by simp⟩, ← length_attribArray,
      List.take_left' rfl]
  · rename_i hn
    obtain rfl : ps = [] := List.length_eq_zero.1 (by omega)
    rfl

/-!
# The two loops

The counting loop stops at the first `EGL_NONE` at an even index and reads nothing past it.
The rewriting loop turns an `EGL_SURFACE_TYPE` value `v` other than `EGL_DONT_CARE` that asks
for windows into `(v & ~EGL_WINDOW_BIT) | EGL_STREAM_BIT_KHR`, and changes nothing else.
-/

/-- `while (attribs[nAttribs] != EGL_NONE)` from the `nAttribs`-th entry on: the keys are
read, the values skipped, and the result is the count of entries before the terminator and
whether a key was `EGL_SURFACE_TYPE`. -/
def countAttribs : List (BitVec 32) → Nat → Bool → Except Fault (Nat × Bool)
  | [], _, _ => .error .outOfBounds
  | key :: rest, nAttribs, surfType =>
      if key = noneEntry then .ok (nAttribs, surfType)
      else match rest with
        | [] => .error .outOfBounds
        | _ :: rest => countAttribs rest (nAttribs + 2) (surfType || key = surfaceTypeEntry)

theorem countAttribs_attribArray (ys : List (BitVec 32)) :
    ∀ (ps : List (BitVec 32 × BitVec 32)), (∀ p ∈ ps, p.1 ≠ noneEntry) → ∀ n surfType,
      countAttribs (attribArray ps ++ noneEntry :: ys) n surfType =
        .ok (n + 2 * ps.length, surfType || ps.any (·.1 = surfaceTypeEntry))
  | [], _, n, surfType => by
      cases ys <;> simp [countAttribs]
  | (key, value) :: rest, hkeys, n, surfType => by
      have hkey : key ≠ noneEntry := hkeys _ (List.mem_cons_self _ _)
      have ih := countAttribs_attribArray ys rest fun p hp => hkeys p (List.mem_cons_of_mem _ hp)
      rw [attribArray_cons, List.cons_append, List.cons_append, countAttribs, if_neg hkey]
      simp only [ih, List.length_cons, List.any_cons, Bool.or_assoc,
        show n + 2 + 2 * rest.length = n + 2 * (rest.length + 1) by omega]

def streamForWindow (v : BitVec 32) : BitVec 32 :=
  if v ≠ eglDontCare ∧ v &&& eglWindowBit ≠ 0 then (v &&& ~~~eglWindowBit) ||| eglStreamBitKhr
  else v

/-- The second loop, `while (attribs2[nAttribs] != EGL_NONE)`, from the `nAttribs`-th entry
of the copy on: the value after an `EGL_SURFACE_TYPE` key is read and rewritten in place,
other values are skipped. -/
def replaceWindowBits : List (BitVec 32) → Except Fault (List (BitVec 32))
  | [] => .error .outOfBounds
  | key :: rest =>
      if key = noneEntry then .ok (key :: rest)
      else if key = surfaceTypeEntry then
        match rest with
        | [] => .error .outOfBounds
        | value :: rest => (replaceWindowBits rest).map (key :: streamForWindow value :: ·)
      else match rest with
        | [] => .error .outOfBounds
        | value :: rest => (replaceWindowBits rest).map (key :: value :: ·)

def streamForWindowPair (p : BitVec 32 × BitVec 32) : BitVec 32 × BitVec 32 :=
  (p.1, if p.1 = surfaceTypeEntry then streamForWindow p.2 else p.2)

theorem replaceWindowBits_attribArray :
    ∀ (ps : List (BitVec 32 × BitVec 32)), (∀ p ∈ ps, p.1 ≠ noneEntry) →
      replaceWindowBits (attribArray ps ++ [noneEntry]) =
        .ok (attribArray (ps.map streamForWindowPair) ++ [noneEntry])
  | [], _ => by rw [attribArray_nil, List.nil_append, replaceWindowBits, if_pos rfl]; rfl
  | (key, value) :: rest, hkeys => by
      have hkey : key ≠ noneEntry := hkeys _ (List.mem_cons_self _ _)
      have ih := replaceWindowBits_attribArray rest fun p hp => hkeys p (List.mem_cons_of_mem _ hp)
      rw [attribArray_cons, List.cons_append, List.cons_append, replaceWindowBits, if_neg hkey]
      by_cases hs : key = surfaceTypeEntry <;> simp [hs, ih, streamForWindowPair, Except.map]

/-! # The hook -/

/-- The list the hook hands to `eglChooseConfig`, `none` when `malloc` fails. -/
def chooseConfigAttribs (mallocOk : Bool) (garbage : Nat → BitVec 32)
    (attribs : Option (List (BitVec 32))) : Except Fault (Option (List (BitVec 32))) := do
  let (nAttribs, surfType) ← match attribs with
    | some attribs => countAttribs attribs 0 false
    | none => pure (0, false)
  let nTotalAttribs := if surfType then nAttribs else nAttribs + 2
  if mallocOk then
    let attribs2 := mallocEntries garbage (nTotalAttribs + 1)
    let attribs2 ← (if 0 < nAttribs then memcpyEntries attribs2 (attribs.getD []) nAttribs
      else pure attribs2)
    let attribs2 ← writeAt attribs2 nTotalAttribs noneEntry
    if surfType then some <$> replaceWindowBits attribs2
    else do
      let attribs2 ← writeAt attribs2 (nTotalAttribs - 2) surfaceTypeEntry
      some <$> writeAt attribs2 (nTotalAttribs - 1) eglStreamBitKhr
  else pure none

/-- What the hook reads besides the display: whether `malloc` succeeds, what the block it
returns holds, and the driver's `eglChooseConfig` on the device's display, which returns a
result for the list it is given (the configurations it writes are not modelled). -/
structure ChooseConfigEnv where
  mallocOk : Bool
  garbage : Nat → BitVec 32
  chooseConfig : Nat → List (BitVec 32) → Bool

/-- `wlEglChooseConfigHook(dpy, attribs, configs, configSize, numConfig)`: the state, the
result, and the list handed to `eglChooseConfig`, `none` when it is not called. -/
def wlEglChooseConfigHook (env : ChooseConfigEnv) (s : EglState) (dpy : Nat)
    (attribs : Option (List (BitVec 32))) :
    Except Fault (EglState × Bool × Option (List (BitVec 32))) := do
  let display ← s.readDisplay dpy
  let devDpy ← s.readDevDpy display.devDpy
  match ← chooseConfigAttribs env.mallocOk env.garbage attribs with
  | none => pure (s.setError eglBadAlloc, false, none)
  | some attribs2 => pure (s, env.chooseConfig devDpy.eglDisplay attribs2, some attribs2)

/-!
# What the driver is given

The three stores of the branch without `EGL_SURFACE_TYPE` fill the three entries past the copied
pairs, and a `NULL` list is handed on as `EGL_SURFACE_TYPE, EGL_STREAM_BIT_KHR, EGL_NONE`.  When
`malloc` fails the hook sets `EGL_BAD_ALLOC` and returns `EGL_FALSE` without calling the driver.
-/

/-- The list the driver should see for the pairs `ps` before the caller's terminator: window
requests turned into stream requests, or a stream request added when there is none. -/
def streamConfigAttribs (ps : List (BitVec 32 × BitVec 32)) : List (BitVec 32) :=
  if ps.any (·.1 = surfaceTypeEntry) then attribArray (ps.map streamForWindowPair) ++ [noneEntry]
  else attribArray ps ++ [surfaceTypeEntry, eglStreamBitKhr, noneEntry]

theorem writeStreamRequest (l : List (BitVec 32)) (a b c : BitVec 32) :
    (do
      let attribs2 ← writeAt (l ++ [a, b, c]) (l.length + 2) noneEntry
      let attribs2 ← writeAt attribs2 (l.length + 2 - 2) surfaceTypeEntry
      some <$> writeAt attribs2 (l.length + 2 - 1) eglStreamBitKhr) =
      Except.ok (some (l ++ [surfaceTypeEntry, eglStreamBitKhr, noneEntry])) := by
  simp [writeAt, List.set_append_right]

/-- On an array whose first `EGL_NONE` at an even index ends the pairs `ps`, every read and
store of the copy stays inside the arrays and the driver is handed `streamConfigAttribs ps`,
whatever `malloc` left in the block. -/
theorem chooseConfigAttribs_pairs (garbage : Nat → BitVec 32)
    (ps : List (BitVec 32 × BitVec 32)) (hkeys : ∀ p ∈ ps, p.1 ≠ noneEntry)
    (ys : List (BitVec 32)) :
    chooseConfigAttribs true garbage (some (attribArray ps ++ noneEntry :: ys)) =
      .ok (some (streamConfigAttribs ps)) := by
  rw [chooseConfigAttribs]
  dsimp only
  rw [countAttribs_attribArray ys ps hkeys, except_ok_bind]
  dsimp only
  rw [Nat.zero_add, Option.getD_some, Bool.false_or, if_pos rfl, streamConfigAttribs]
  cases hs : ps.any (·.1 = surfaceTypeEntry)
  case false =>
    simp only [Bool.false_eq_true, if_false]
    rw [copyAttribs_eq ps ys _ (by simp; omega)]
    obtain ⟨a, b, c, habc⟩ := List.length_eq_three.1
      (show ((mallocEntries garbage (2 * ps.length + 2 + 1)).drop (2 * ps.length)).length = 3 by
        simp; omega)
    rw [habc, except_ok_bind, ← length_attribArray]
    exact writeStreamRequest _ a b c
  case true =>
    simp only [if_true]
    rw [copyAttribs_eq ps ys _ (by simp)]
    obtain ⟨a, ha⟩ := List.length_eq_one.1
      (show ((mallocEntries garbage (2 * ps.length + 1)).drop (2 * ps.length)).length = 1 by simp)
    rw [ha, except_ok_bind, writeAt_append _ ((Nat.add_zero _).trans (length_attribArray ps))
      (by simp : 0 < [a].length), except_ok_bind]
    exact congrArg (Except.map some) (replaceWindowBits_attribArray ps hkeys)

theorem chooseConfigAttribs_null (garbage : Nat → BitVec 32) :
    chooseConfigAttribs true garbage none = .ok (some (streamConfigAttribs [])) :=
  rfl

/-- The driver's `eglChooseConfig` is called on the device's display with the caller's list
turned into a stream request, and the state is left as it is. -/
theorem wlEglChooseConfigHook_streamAttribs (garbage : Nat → BitVec 32)
    (chooseConfig : Nat → List (BitVec 32) → Bool) (s : EglState) (dpy : Nat)
    (ps : List (BitVec 32 × BitVec 32)) (hkeys : ∀ p ∈ ps, p.1 ≠ noneEntry)
    (attribs : Option (List (BitVec 32)))
    (hattribs : (∃ ys, attribs = some (attribArray ps ++ noneEntry :: ys)) ∨
      attribs = none ∧ ps = []) :
    wlEglChooseConfigHook ⟨true, garbage, chooseConfig⟩ s dpy attribs = (do
      let display ← s.readDisplay dpy
      let devDpy ← s.readDevDpy display.devDpy
      pure (s, chooseConfig devDpy.eglDisplay (streamConfigAttribs ps),
        some (streamConfigAttribs ps))) := by
  have hcopy : chooseConfigAttribs true garbage attribs = .ok (some (streamConfigAttribs ps)) := by
    rcases hattribs with ⟨ys, rfl⟩ | ⟨rfl, rfl⟩
    · exact chooseConfigAttribs_pairs garbage ps hkeys ys
    · exact chooseConfigAttribs_null garbage
  simp only [wlEglChooseConfigHook, hcopy, except_ok_bind]

def streamClient : EglState :=
  { EglState.init fun _ => true with
    displays := fun a => if a = 1 then some ⟨9, 100, true, false, 0, 2, 1, 1, 0⟩ else none
    devDpys := fun e => if e = 2 then some ⟨50, 0, 9, 1, 1, 5, 226, 128⟩ else none }

theorem windowRequest_streamAttribs :
    (∀ p ∈ [(surfaceTypeEntry, eglWindowBit)], p.1 ≠ noneEntry) ∧
      wlEglChooseConfigHook ⟨true, fun _ => 0, fun d _ => d == 50⟩ streamClient 1
          (some [surfaceTypeEntry, eglWindowBit, noneEntry, 5]) =
        .ok (streamClient, true, some [surfaceTypeEntry, eglStreamBitKhr, noneEntry]) :=
  ⟨by decide, (wlEglChooseConfigHook_streamAttribs _ _ _ _ [(surfaceTypeEntry, eglWindowBit)]
    (by decide) _ (.inl ⟨[5], rfl⟩)).trans rfl⟩

example : streamConfigAttribs [(surfaceTypeEntry, eglDontCare), (0x3024, 8)] =
    [surfaceTypeEntry, eglDontCare, 0x3024, 8, noneEntry] := by
  decide

theorem wlEglChooseConfigHook_mallocFailed (garbage : Nat → BitVec 32)
    (chooseConfig : Nat → List (BitVec 32) → Bool) (s : EglState) (dpy : Nat)
    (ps : List (BitVec 32 × BitVec 32)) (hkeys : ∀ p ∈ ps, p.1 ≠ noneEntry)
    (attribs : Option (List (BitVec 32)))
    (hattribs : (∃ ys, attribs = some (attribArray ps ++ noneEntry :: ys)) ∨
      attribs = none ∧ ps = []) :
    wlEglChooseConfigHook ⟨false, garbage, chooseConfig⟩ s dpy attribs = (do
      let display ← s.readDisplay dpy
      let _ ← s.readDevDpy display.devDpy
      pure (s.setError eglBadAlloc, false, none)) := by
  have hcopy : chooseConfigAttribs false garbage attribs = .ok none := by
    rcases hattribs with ⟨ys, rfl⟩ | ⟨rfl, rfl⟩
    · rw [chooseConfigAttribs]
      dsimp only
      rw [countAttribs_attribArray ys ps hkeys, except_ok_bind]
      rfl
    · rfl
  simp only [wlEglChooseConfigHook, hcopy, except_ok_bind]

end Display
end EglWayland
