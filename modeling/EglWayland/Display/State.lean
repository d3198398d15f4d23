import EglWayland.Storage
import Mathlib.Logic.Function.Basic

/-!
# Displays, device connections and the process around them

`wayland-egldisplay.c` keeps every `WlEglDisplay` it creates in the process-wide list
`wlEglDisplayList`, and `wayland-egldevice.c` keeps one `WlEglDeviceDpy` per device in the
platform data's `deviceDpyList`.  This module gives the two records as the code reads and
writes them, the heap they live in, and the calls into the EGL driver and the Wayland
client library that leave a trace outside the heap.

Pointers are addresses, `0` standing for `NULL`, `EGL_NO_DISPLAY` and `EGL_NO_DEVICE_EXT`.
A heap maps each live address to its object, and `calloc` hands out an address never used
before.
-/

namespace EglWayland
namespace Display

/-! # EGL constants -/

def eglFalse : Int := 0
def eglTrue : Int := 1
def eglNoDeviceExt : Int := 0
def eglSuccess : Int := 0x3000
def eglNotInitialized : Int := 0x3001
def eglBadAlloc : Int := 0x3003
def eglBadAttribute : Int := 0x3004
def eglBadParameter : Int := 0x300C
def eglNone : Int := 0x3038
def eglBadDeviceExt : Int := 0x322B
def eglDeviceExt : Int := 0x322C
def eglTrackReferencesKhr : Int := 0x3352
def eglPlatformWaylandExt : Nat := 0x31D8
def eglSurfaceType : Int := 0x3033
def eglWindowBit : BitVec 32 := 0x0004
def eglStreamBitKhr : BitVec 32 := 0x0800

/-- An attribute array given by its pairs: each key followed by its value, in order. -/
def attribArray {α : Type} (ps : List (α × α)) : List α :=
  ps.flatMap fun p => [p.1, p.2]

@[simp] theorem attribArray_nil {α : Type} : attribArray ([] : List (α × α)) = [] := rfl

@[simp] theorem attribArray_cons {α : Type} (p : α × α) (ps : List (α × α)) :
    attribArray (p :: ps) = p.1 :: p.2 :: attribArray ps := rfl

@[simp] theorem length_attribArray {α : Type} (ps : List (α × α)) :
    (attribArray ps).length = 2 * ps.length := by
  induction ps with
  | nil => rfl
  | cons p ps ih => simp only [attribArray_cons, List.length_cons, ih]; omega

/-! # Records -/

/-- The fields of a `WlEglDeviceDpy` that the registry and the display hooks use. -/
structure WlEglDeviceDpy where
  eglDisplay : Nat
  eglDevice : Int
  data : Nat
  initCount : Nat
  major : Int
  minor : Int
  dev : Nat
  renderNode : Nat
  deriving DecidableEq, Repr

/-- The fields of a `WlEglDisplay` that its lifecycle reads and writes.  The header
declaring `refCount` is not part of the source; it is a signed count here, as the
decrement in `wlEglUnrefDisplay` can take it below zero. -/
structure WlEglDisplay where
  data : Nat
  nativeDpy : Nat
  ownNativeDpy : Bool
  useInitRefCount : Bool
  requestedDevice : Int
  devDpy : Nat
  initCount : Nat
  refCount : Int
  drmFd : Int
  deriving DecidableEq, Repr

/-- Calls whose only effect is outside the heap: on the EGL driver, on the Wayland
connection, on file descriptors, and `wlEglSetError`; and the teardown `terminateDisplay`
performs on a display, `wlEglDestroyAllSurfaces` and the release of its format set,
feedback and protocol objects. -/
inductive Effect where
  | eglGetPlatformDisplay (device : Int) (trackReferences : Bool)
  | eglInitialize (eglDisplay : Nat)
  | eglTerminate (eglDisplay : Nat)
  | displayDisconnect (nativeDpy : Nat)
  | close (fd : Int)
  | setError (err : Int)
  | destroyAllSurfaces (display : Nat)
  | destroyDisplayObjects (display : Nat)
  deriving DecidableEq, Repr

/-- The answers of the EGL driver on a device display: `eglInitialize` gives the version
or fails, `eglTerminate` succeeds or fails, and `eglQueryDisplayAttrib` and
`eglGetConfigAttrib` (for a config and an attribute) give the value or fail. -/
structure Driver where
  eglInitialize : Nat → Option (Int × Int)
  eglTerminate : Nat → Bool
  eglQueryDisplayAttrib : Nat → Int → Option Int
  eglGetConfigAttrib : Nat → Nat → Int → Option (BitVec 32)

/-!
# Process state

`init` is a process that has created no display yet, and `setError` is `wlEglSetError(data,
err)`.  Reading through `devDpy`, like reading through a display handle, faults on `NULL` and on
released storage.
-/

theorem update_eq_self_of_eq {β : Type} {f : Nat → Option β} {a : Nat} {v : Option β}
    (h : f a = v) : Function.update f a v = f := by
  subst h
  exact Function.update_eq_self a f

/-- The display heap and directory, the device heap and the per-platform registries
(with each platform data's `supportsDisplayReference`), the next fresh address, and the
calls made so far, oldest first. -/
structure EglState where
  displays : Nat → Option WlEglDisplay
  wlEglDisplayList : List Nat
  devDpys : Nat → Option WlEglDeviceDpy
  deviceDpyList : Nat → List Nat
  supportsDisplayReference : Nat → Bool
  nextAddr : Nat
  effects : List Effect

namespace EglState

def init (supportsDisplayReference : Nat → Bool) : EglState where
  displays := fun _ => none
  wlEglDisplayList := []
  devDpys := fun _ => none
  deviceDpyList := fun _ => []
  supportsDisplayReference := supportsDisplayReference
  nextAddr := 1
  effects := []

def log (s : EglState) (e : Effect) : EglState :=
  { s with effects := s.effects ++ [e] }

def setError (s : EglState) (err : Int) : EglState :=
  s.log (.setError err)

/-- `*display`: `NULL` and released storage fault. -/
def readDisplay (s : EglState) (a : Nat) : Except Fault WlEglDisplay :=
  if a = 0 then .error .nullDeref
  else match s.displays a with
    | some d => .ok d
    | none => .error .useAfterFree

def setDisplay (s : EglState) (a : Nat) (d : WlEglDisplay) : EglState :=
  { s with displays := Function.update s.displays a (some d) }

def readDevDpy (s : EglState) (e : Nat) : Except Fault WlEglDeviceDpy :=
  if e = 0 then .error .nullDeref
  else match s.devDpys e with
    | some dd => .ok dd
    | none => .error .useAfterFree

def setDevDpy (s : EglState) (e : Nat) (dd : WlEglDeviceDpy) : EglState :=
  { s with devDpys := Function.update s.devDpys e (some dd) }

/-- `calloc`: the next fresh address. -/
def alloc (s : EglState) : EglState × Nat :=
  ({ s with nextAddr := s.nextAddr + 1 }, s.nextAddr)

variable (s : EglState)

@[simp] theorem log_displays (e : Effect) : (s.log e).displays = s.displays := rfl
@[simp] theorem log_wlEglDisplayList (e : Effect) :
    (s.log e).wlEglDisplayList = s.wlEglDisplayList := rfl
@[simp] theorem log_devDpys (e : Effect) : (s.log e).devDpys = s.devDpys := rfl
@[simp] theorem log_deviceDpyList (e : Effect) : (s.log e).deviceDpyList = s.deviceDpyList := rfl
@[simp] theorem log_effects (e : Effect) : (s.log e).effects = s.effects ++ [e] := rfl
@[simp] theorem log_nextAddr (e : Effect) : (s.log e).nextAddr = s.nextAddr := rfl
@[simp] theorem setDisplay_wlEglDisplayList (a : Nat) (d : WlEglDisplay) :
    (s.setDisplay a d).wlEglDisplayList = s.wlEglDisplayList := rfl
@[simp] theorem setDisplay_devDpys (a : Nat) (d : WlEglDisplay) :
    (s.setDisplay a d).devDpys = s.devDpys := rfl
@[simp] theorem setDisplay_deviceDpyList (a : Nat) (d : WlEglDisplay) :
    (s.setDisplay a d).deviceDpyList = s.deviceDpyList := rfl
@[simp] theorem setDisplay_effects (a : Nat) (d : WlEglDisplay) :
    (s.setDisplay a d).effects = s.effects := rfl
@[simp] theorem setDisplay_nextAddr (a : Nat) (d : WlEglDisplay) :
    (s.setDisplay a d).nextAddr = s.nextAddr := rfl
@[simp] theorem setDevDpy_nextAddr (e : Nat) (dd : WlEglDeviceDpy) :
    (s.setDevDpy e dd).nextAddr = s.nextAddr := rfl
@[simp] theorem setDisplay_displays (a : Nat) (d : WlEglDisplay) :
    (s.setDisplay a d).displays = Function.update s.displays a (some d) := rfl
@[simp] theorem setDevDpy_displays (e : Nat) (dd : WlEglDeviceDpy) :
    (s.setDevDpy e dd).displays = s.displays := rfl
@[simp] theorem setDevDpy_wlEglDisplayList (e : Nat) (dd : WlEglDeviceDpy) :
    (s.setDevDpy e dd).wlEglDisplayList = s.wlEglDisplayList := rfl
@[simp] theorem setDevDpy_deviceDpyList (e : Nat) (dd : WlEglDeviceDpy) :
    (s.setDevDpy e dd).deviceDpyList = s.deviceDpyList := rfl
@[simp] theorem setDevDpy_effects (e : Nat) (dd : WlEglDeviceDpy) :
    (s.setDevDpy e dd).effects = s.effects := rfl
@[simp] theorem setDevDpy_devDpys (e : Nat) (dd : WlEglDeviceDpy) :
    (s.setDevDpy e dd).devDpys = Function.update s.devDpys e (some dd) := rfl

theorem readDisplay_eq_ok {a : Nat} {d : WlEglDisplay} :
    s.readDisplay a = .ok d ↔ a ≠ 0 ∧ s.displays a = some d := by
  unfold readDisplay
  split_ifs with h
  · simp [h]
  · cases s.displays a <;> simp [h]

theorem readDevDpy_eq_ok {e : Nat} {dd : WlEglDeviceDpy} :
    s.readDevDpy e = .ok dd ↔ e ≠ 0 ∧ s.devDpys e = some dd := by
  unfold readDevDpy
  split_ifs with h
  · simp [h]
  · cases s.devDpys e <;> simp [h]

theorem readDisplay_of_live {a : Nat} {d : WlEglDisplay} (ha : a ≠ 0)
    (h : s.displays a = some d) : s.readDisplay a = .ok d :=
  (readDisplay_eq_ok s).2 ⟨ha, h⟩

theorem readDevDpy_of_live {e : Nat} {dd : WlEglDeviceDpy} (he : e ≠ 0)
    (h : s.devDpys e = some dd) : s.readDevDpy e = .ok dd :=
  (readDevDpy_eq_ok s).2 ⟨he, h⟩

@[simp] theorem readDevDpy_null : s.readDevDpy 0 = .error .nullDeref := rfl

end EglState

end Display
end EglWayland
