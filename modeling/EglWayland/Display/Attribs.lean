import EglWayland.Display.Create

/-!
# The attribute list of `wlEglGetPlatformDisplayExport`

The caller's `EGLint` array is read two entries at a time until an `EGL_NONE` at an even
index: the key, and the value for the two keys that take one.  The model of the export
takes the pairs the loop walks; this module gives the loop over the array itself, shows
that it reads nothing past the terminator and agrees with `parseAttribs`, and says which
lists the export refuses and which key it looks displays up by.
-/

namespace EglWayland
namespace Display

open EglState

/-! # The loop over the array -/

@[simp] theorem eglTrackReferencesKhr_ne_eglNone : eglTrackReferencesKhr ≠ eglNone := by decide
@[simp] theorem eglDeviceExt_ne_eglNone : eglDeviceExt ≠ eglNone := by decide
@[simp] theorem eglDeviceExt_ne_eglTrackReferencesKhr : eglDeviceExt ≠ eglTrackReferencesKhr := by
  decide
@[simp] theorem eglTrackReferencesKhr_ne_eglDeviceExt : eglTrackReferencesKhr ≠ eglDeviceExt := by
  decide
@[simp] theorem eglTrue_ne_eglFalse : eglTrue ≠ eglFalse := by decide
@[simp] theorem eglFalse_ne_eglTrue : eglFalse ≠ eglTrue := by decide

/-- `for (i = 0; attribs[i] != EGL_NONE; i += 2)` from the `i`-th entry on: `attribs[i]` is
read, and `attribs[i + 1]` for the two keys that take a value; reading past the array
faults. -/
def attribLoop : List Int → Bool → Int → Except Fault (Except Int (Bool × Int))
  | [], _, _ => .error .outOfBounds
  | key :: rest, useInitRefCount, requestedDevice =>
      if key = eglNone then .ok (.ok (useInitRefCount, requestedDevice))
      else if key = eglTrackReferencesKhr then
        match rest with
        | [] => .error .outOfBounds
        | value :: rest =>
            if value = eglTrue ∨ value = eglFalse then attribLoop rest (value = eglTrue) requestedDevice
            else .ok (.error eglBadAttribute)
      else if key = eglDeviceExt then
        match rest with
        | [] => .error .outOfBounds
        | value :: rest =>
            if value = eglNoDeviceExt then .ok (.error eglBadDeviceExt)
            else attribLoop rest useInitRefCount value
      else .ok (.error eglBadAttribute)

/-- On an array whose first `EGL_NONE` at an even index ends the pairs `ps`, the loop reads
nothing past that `EGL_NONE` and computes what `parseAttribs` computes on `ps`. -/
theorem attribLoop_attribArray (ys : List Int) :
    ∀ (ps : List (Int × Int)), (∀ p ∈ ps, p.1 ≠ eglNone) → ∀ (u : Bool) (dev : Int),
      attribLoop (attribArray ps ++ eglNone :: ys) u dev = .ok (parseAttribs ps u dev)
  | [], _, u, dev => by cases ys <;> simp [attribArray, attribLoop, parseAttribs]
  | (key, value) :: rest, hkeys, u, dev => by
      have hkey : key ≠ eglNone := hkeys (key, value) (List.mem_cons_self _ _)
      have ih := attribLoop_attribArray ys rest fun p hp => hkeys p (List.mem_cons_of_mem _ hp)
      have harr : attribArray ((key, value) :: rest) ++ eglNone :: ys =
          key :: value :: (attribArray rest ++ eglNone :: ys) := by simp [attribArray]
      rw [harr]
      by_cases ht : key = eglTrackReferencesKhr
      · by_cases hv : value = eglTrue ∨ value = eglFalse <;>
          simp [attribLoop, parseAttribs, hkey, ht, hv, ih]
      · by_cases hd : key = eglDeviceExt
        · by_cases hv : value = eglNoDeviceExt <;>
            simp [attribLoop, parseAttribs, hkey, ht, hd, hv, ih]
        · simp [attribLoop, parseAttribs, hkey, ht, hd]

/-! # What the check refuses -/

/-- A pair the check refuses: a key other than `EGL_TRACK_REFERENCES_KHR` and
`EGL_DEVICE_EXT`, a `EGL_TRACK_REFERENCES_KHR` value other than `EGL_TRUE` and
`EGL_FALSE`, or `EGL_DEVICE_EXT` with `EGL_NO_DEVICE_EXT`. -/
def badAttrib (p : Int × Int) : Bool :=
  p.1 ≠ eglTrackReferencesKhr ∧ p.1 ≠ eglDeviceExt ∨
    p.1 = eglTrackReferencesKhr ∧ p.2 ≠ eglTrue ∧ p.2 ≠ eglFalse ∨
    p.1 = eglDeviceExt ∧ p.2 = eglNoDeviceExt

/-- The value of the last pair with key `k`, `d` if there is none. -/
def lastValue (k d : Int) : List (Int × Int) → Int
  | [] => d
  | p :: rest => lastValue k (if p.1 = k then p.2 else d) rest

/-- The check stops at the first bad pair, with `EGL_BAD_DEVICE_EXT` for a device and
`EGL_BAD_ATTRIBUTE` otherwise; without one it keeps the last value of each key. -/
theorem parseAttribs_eq :
    ∀ (ps : List (Int × Int)), (∀ p ∈ ps, p.1 ≠ eglNone) → ∀ (u : Bool) (dev : Int),
      parseAttribs ps u dev =
        match ps.find? badAttrib with
        | some p => .error (if p.1 = eglDeviceExt then eglBadDeviceExt else eglBadAttribute)
        | none => .ok (lastValue eglTrackReferencesKhr (if u then eglTrue else eglFalse) ps = eglTrue,
            lastValue eglDeviceExt dev ps)
  | [], _, u, dev => by cases u <;> simp [parseAttribs, lastValue, eglTrue, eglFalse]
  | (key, value) :: rest, hkeys, u, dev => by
      have hkey : key ≠ eglNone := hkeys (key, value) (List.mem_cons_self _ _)
      have ih := parseAttribs_eq rest fun p hp => hkeys p (List.mem_cons_of_mem _ hp)
      by_cases ht : key = eglTrackReferencesKhr
      · subst ht
        by_cases hv : value = eglTrue ∨ value = eglFalse
        · rcases hv with rfl | rfl <;>
            simp [parseAttribs, ih, badAttrib, lastValue, List.find?_cons]
        · push_neg at hv
          simp [parseAttribs, hv, badAttrib, List.find?_cons]
      · by_cases hd : key = eglDeviceExt
        · subst hd
          by_cases hv : value = eglNoDeviceExt
          · simp [parseAttribs, hkey, hv, badAttrib, ht, List.find?_cons]
          · simp [parseAttribs, hkey, hv, ih, badAttrib, lastValue, ht, List.find?_cons]
        · simp [parseAttribs, hkey, ht, hd, badAttrib, List.find?_cons]

/-! # The displays it looks up -/

theorem lookupDisplay_some_matches {s : EglState} {nativeDpy : Nat} {u : Bool} {dev : Int}
    {a : Nat} : ∀ {l : List Nat}, lookupDisplay s nativeDpy u dev l = .ok (some a) →
      ∃ d, s.displays a = some d ∧ d.matches nativeDpy u dev = true
  | [], h => nomatch h
  | b :: rest, h => by
      obtain ⟨db, hread, h⟩ := except_bind_eq_ok.1 h
      split_ifs at h with hm
      · cases h
        exact ⟨db, (s.readDisplay_eq_ok.1 hread).2, hm⟩
      · exact lookupDisplay_some_matches h

/-- A display the export returns past the check, found or made, has the key it was asked
for. -/
theorem wlEglGetPlatformDisplayExport_key {env : CreateEnv} {s s' : EglState}
    {data nativeDpy a : Nat} {attribs : Option (List (Int × Int))} {u : Bool} {dev : Int}
    (hparse : parseDisplayAttribs attribs = .ok (u, dev))
    (h : wlEglGetPlatformDisplayExport env s data eglPlatformWaylandExt nativeDpy attribs =
      .ok (s', a)) (ha : a ≠ 0) :
    ∃ d, s'.displays a = some d ∧ d.useInitRefCount = u ∧ d.requestedDevice = dev := by
  simp only [wlEglGetPlatformDisplayExport, ne_eq, not_true_eq_false, ↓reduceIte, hparse] at h
  obtain ⟨found, hlook, h⟩ := except_bind_eq_ok.1 h
  rcases found with _ | b
  · rcases createDisplay_spec h with ⟨rfl, -⟩ | ⟨-, -, -, d, -, hdisp, hkey, -⟩
    · exact absurd rfl ha
    · exact ⟨d, by simp [hdisp], hkey.useInitRefCount, hkey.requestedDevice⟩
  · obtain ⟨rfl, rfl⟩ := Prod.mk.inj (Except.ok.inj h)
    obtain ⟨d, hd, hm⟩ := lookupDisplay_some_matches hlook
    simp only [WlEglDisplay.matches, Bool.and_eq_true, beq_iff_eq] at hm
    exact ⟨d, hd, hm.1.2, hm.2⟩

/-! # The check as the export makes it -/

/-- Take the Wayland platform and an array whose first `EGL_NONE` at an even index ends the
pairs `ps`.  The loop reads nothing past that `EGL_NONE`.  The export refuses the list
before taking the lock, with `EGL_BAD_ATTRIBUTE` or `EGL_BAD_DEVICE_EXT` set and nothing
else changed, exactly when one of the pairs is bad.  Otherwise a display it returns has the
values of the last `EGL_TRACK_REFERENCES_KHR` and `EGL_DEVICE_EXT` pairs, `EGL_FALSE` and
`EGL_NO_DEVICE_EXT` without them. -/
theorem wlEglGetPlatformDisplayExport_attribs (env : CreateEnv) (s : EglState)
    (data nativeDpy : Nat) (ps : List (Int × Int)) (hkeys : ∀ p ∈ ps, p.1 ≠ eglNone) :
    (∀ ys, attribLoop (attribArray ps ++ eglNone :: ys) false eglNoDeviceExt =
      .ok (parseDisplayAttribs (some ps))) ∧
    ((∃ p ∈ ps, badAttrib p) ↔ ∃ err, (err = eglBadAttribute ∨ err = eglBadDeviceExt) ∧
      parseDisplayAttribs (some ps) = .error err ∧
      wlEglGetPlatformDisplayExport env s data eglPlatformWaylandExt nativeDpy (some ps) =
        .ok (s.setError err, 0)) ∧
    ((∀ p ∈ ps, badAttrib p = false) →
      parseDisplayAttribs (some ps) = .ok (lastValue eglTrackReferencesKhr eglFalse ps = eglTrue,
        lastValue eglDeviceExt eglNoDeviceExt ps) ∧
      ∀ s' a, wlEglGetPlatformDisplayExport env s data eglPlatformWaylandExt nativeDpy (some ps) =
          .ok (s', a) → a ≠ 0 →
        ∃ d, s'.displays a = some d ∧
          d.useInitRefCount = decide (lastValue eglTrackReferencesKhr eglFalse ps = eglTrue) ∧
          d.requestedDevice = lastValue eglDeviceExt eglNoDeviceExt ps) := by
  have hparse := parseAttribs_eq ps hkeys false eglNoDeviceExt
  simp only [Bool.false_eq_true, ↓reduceIte] at hparse
  refine ⟨fun ys => attribLoop_attribArray ys ps hkeys false eglNoDeviceExt, ?_, fun hgood => ?_⟩
  · rcases hfind : ps.find? badAttrib with _ | p <;> rw [hfind] at hparse
    · -- no bad pair: the check passes
      simp only [List.find?_eq_none] at hfind
      simp only [parseDisplayAttribs, hparse]
      exact ⟨fun ⟨p, hp, hbad⟩ => absurd hbad (hfind p hp), fun ⟨_, _, h, _⟩ => nomatch h⟩
    · -- the first bad pair names the error
      refine ⟨fun _ => ⟨_, ?_, hparse, ?_⟩, fun _ => ⟨p, List.mem_of_find?_eq_some hfind,
        List.find?_some hfind⟩⟩
      · split_ifs <;> simp
      · simp [wlEglGetPlatformDisplayExport, parseDisplayAttribs, hparse]
  · have hfind : ps.find? badAttrib = none := List.find?_eq_none.2 fun p hp => by simp [hgood p hp]
    have hok : parseDisplayAttribs (some ps) = .ok (lastValue eglTrackReferencesKhr eglFalse ps = eglTrue,
        lastValue eglDeviceExt eglNoDeviceExt ps) := by rw [parseDisplayAttribs, hparse, hfind]
    exact ⟨hok, fun s' a h ha => wlEglGetPlatformDisplayExport_key hok h ha⟩

/-- Two pairs, the terminator, and entries past it that the loop never reads. -/
theorem trackedDevice_attribs :
    (∀ p ∈ [(eglTrackReferencesKhr, eglTrue), (eglDeviceExt, 7)], p.1 ≠ eglNone) ∧
      attribLoop (attribArray [(eglTrackReferencesKhr, eglTrue), (eglDeviceExt, 7)] ++
        [eglNone, 5, 6]) false eglNoDeviceExt = .ok (.ok (true, 7)) :=
  ⟨by decide, ((wlEglGetPlatformDisplayExport_attribs workingCompositor (.init fun _ => true) 9 0
    [(eglTrackReferencesKhr, eglTrue), (eglDeviceExt, 7)] (by decide)).1 [5, 6]).trans rfl⟩

end Display
end EglWayland
