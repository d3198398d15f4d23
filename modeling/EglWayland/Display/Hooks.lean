import EglWayland.Display.Create

/-!
# Reference counting, the display hooks and global teardown

Every EGL entry point on a display runs in three sections: `wlEglAcquireDisplay` checks
under the process-wide lock that the handle is listed and takes a reference, the work is
done under the display's own mutex, and `wlEglReleaseDisplay` drops the reference under
the process-wide lock again, freeing the display when the count reaches zero.  Each
section is a function here; a hook is the three run one after the other.

`wlEglDestroyAllDisplays` tears down, in one locked section, every display of a platform
data and then the platform data's device registry.
-/

namespace EglWayland
namespace Display

open EglState

/-!
# References

`wlEglAcquireDisplay(dpy)` returns the display with one more reference, or `0`, and
`wlEglReleaseDisplay` is `wlEglUnrefDisplay` under the process-wide lock; `unreffed` is what
`wlEglUnrefDisplay` leaves at the address of display `d`.
-/

/-- The walk of `wlEglIsWlEglDisplay`: each node passed is read to reach the next. -/
def isListed (s : EglState) (a : Nat) : List Nat → Except Fault Bool
  | [] => .ok false
  | b :: rest =>
      if b = a then .ok true
      else do
        let _ ← s.readDisplay b
        isListed s a rest

def wlEglIsWlEglDisplay (s : EglState) (a : Nat) : Except Fault Bool :=
  isListed s a s.wlEglDisplayList

def wlEglAcquireDisplay (s : EglState) (dpy : Nat) : Except Fault (EglState × Nat) := do
  if ← wlEglIsWlEglDisplay s dpy then
    let d ← s.readDisplay dpy
    pure (s.setDisplay dpy { d with refCount := d.refCount + 1 }, dpy)
  else pure (s, 0)

/-- `wlEglUnrefDisplay(display)`: at zero the descriptor is closed and the display freed. -/
def wlEglUnrefDisplay (s : EglState) (a : Nat) : Except Fault EglState := do
  let d ← s.readDisplay a
  if d.refCount - 1 = 0 then
    pure { s.log (.close d.drmFd) with displays := Function.update s.displays a none }
  else pure (s.setDisplay a { d with refCount := d.refCount - 1 })

def wlEglReleaseDisplay (s : EglState) (a : Nat) : Except Fault EglState :=
  wlEglUnrefDisplay s a

def unreffed (d : WlEglDisplay) : Option WlEglDisplay :=
  if d.refCount - 1 = 0 then none else some { d with refCount := d.refCount - 1 }

theorem unreffed_eq_some {d d' : WlEglDisplay} :
    unreffed d = some d' ↔ d.refCount - 1 ≠ 0 ∧ d' = { d with refCount := d.refCount - 1 } := by
  unfold unreffed
  split_ifs with h <;> simp [h, eq_comm]

/-- `wlEglUnrefDisplay` reads a live display and changes only its address (and the log). -/
theorem wlEglUnrefDisplay_spec {s s' : EglState} {a : Nat} (h : wlEglUnrefDisplay s a = .ok s') :
    ∃ d, a ≠ 0 ∧ s.displays a = some d ∧
      s'.displays = Function.update s.displays a (unreffed d) ∧
      s'.wlEglDisplayList = s.wlEglDisplayList ∧ s'.devDpys = s.devDpys ∧
      s'.deviceDpyList = s.deviceDpyList := by
  obtain ⟨d, hread, h⟩ := except_bind_eq_ok.1 h
  obtain ⟨ha, hd⟩ := s.readDisplay_eq_ok.1 hread
  refine ⟨d, ha, hd, ?_⟩
  unfold unreffed
  split_ifs at h ⊢ <;> cases (Except.ok.inj h) <;> exact ⟨rfl, rfl, rfl, rfl⟩

/-! # Termination -/

/-- `terminateDisplay(display, globalTeardown)`.  Once `initCount` is `0` it destroys the
display's surfaces and, unless a global teardown meets a connection the display does not
own, its format set, feedback and protocol objects. -/
def terminateDisplay (driver : Driver) (s : EglState) (a : Nat) (globalTeardown : Bool) :
    Except Fault (EglState × Bool) := do
  let d ← s.readDisplay a
  if d.initCount = 0 then pure (s, true)
  else if 1 < d.initCount ∧ globalTeardown = false then
    pure (s.setDisplay a { d with initCount := d.initCount - 1 }, true)
  else
    let (s, ok) ← wlInternalTerminate driver s d.devDpy
    if ok = false ∧ globalTeardown = false then pure (s, false)
    else
      let s := (s.setDisplay a { d with initCount := 0 }).log (.destroyAllSurfaces a)
      pure (if globalTeardown = false ∨ d.ownNativeDpy then s.log (.destroyDisplayObjects a)
        else s, true)

/-!
# Hooks

Each section is the part of its hook under the display's mutex.  In
`queryDisplayAttribBody`, `valueGiven` says whether `value` is non-`NULL`.
-/

/-- The section of `wlEglInitializeHook` under the display's mutex: the result and the
version written to `*major` and `*minor`.  `compositorOk` says whether the event queue, the
registry round trip, the protocol binding and the second round trip all succeed. -/
def initializeBody (driver : Driver) (compositorOk : Bool) (s : EglState) (a : Nat) :
    Except Fault (EglState × Bool × Option (Int × Int)) := do
  let d ← s.readDisplay a
  if 0 < d.initCount then
    let dd ← s.readDevDpy d.devDpy
    let s := if d.useInitRefCount then s.setDisplay a { d with initCount := d.initCount + 1 } else s
    pure (s, true, some (dd.major, dd.minor))
  else
    let (s, ok) ← wlInternalInitialize driver s d.devDpy
    if ok then
      let s := s.setDisplay a { d with initCount := 1 }
      if compositorOk then
        let dd ← s.readDevDpy d.devDpy
        pure (s, true, some (dd.major, dd.minor))
      else
        let (s, _) ← terminateDisplay driver s a false
        pure (s.setError eglBadAlloc, false, none)
    else pure (s, false, none)

def terminateBody (driver : Driver) (s : EglState) (a : Nat) : Except Fault (EglState × Bool) :=
  terminateDisplay driver s a false

def queryDisplayAttribBody (driver : Driver) (name : Int) (valueGiven : Bool) (s : EglState)
    (a : Nat) : Except Fault (EglState × Bool × Option Int) := do
  let d ← s.readDisplay a
  if valueGiven = false then pure (s.setError eglBadParameter, false, none)
  else if d.initCount = 0 then pure (s.setError eglNotInitialized, false, none)
  else if name = eglDeviceExt then
    let dd ← s.readDevDpy d.devDpy
    pure (s, true, some dd.eglDevice)
  else if name = eglTrackReferencesKhr then
    pure (s, true, some (if d.useInitRefCount then eglTrue else eglFalse))
  else
    let dd ← s.readDevDpy d.devDpy
    match driver.eglQueryDisplayAttrib dd.eglDisplay name with
    | some v => pure (s, true, some v)
    | none => pure (s, false, none)

/-- `wlEglGetConfigAttribHook(dpy, config, attribute, value)`, `attribute` written `attr`: the
result and the value left in `*value` when the driver wrote it.  Unlike the other hooks it takes no reference and no
lock: it reads the display and its device connection through the handle as it is. -/
def wlEglGetConfigAttribHook (driver : Driver) (s : EglState) (dpy config : Nat)
    (attr : Int) : Except Fault (Bool × Option (BitVec 32)) := do
  let display ← s.readDisplay dpy
  let dd ← s.readDevDpy display.devDpy
  match driver.eglGetConfigAttrib dd.eglDisplay config attr with
  | none => pure (false, none)
  | some value =>
      if attr = eglSurfaceType then
        -- window configurations are supported through EGLStreams only
        if value &&& eglStreamBitKhr ≠ 0 then pure (true, some (value ||| eglWindowBit))
        else pure (true, some (value &&& ~~~eglWindowBit))
      else pure (true, some value)

/-- A hook: acquire, the section under the mutex, release; `fallback` is the result when
the handle is not a listed display. -/
def runHook {β : Type} (fallback : β) (body : EglState → Nat → Except Fault (EglState × β))
    (s : EglState) (dpy : Nat) : Except Fault (EglState × β) := do
  let (s, display) ← wlEglAcquireDisplay s dpy
  if display = 0 then pure (s, fallback)
  else
    let (s, r) ← body s display
    let s ← wlEglReleaseDisplay s display
    pure (s, r)

def wlEglInitializeHook (driver : Driver) (compositorOk : Bool) (s : EglState) (dpy : Nat) :
    Except Fault (EglState × Bool × Option (Int × Int)) :=
  runHook (false, none) (initializeBody driver compositorOk) s dpy

def wlEglTerminateHook (driver : Driver) (s : EglState) (dpy : Nat) :
    Except Fault (EglState × Bool) :=
  runHook false (terminateBody driver) s dpy

def wlEglQueryDisplayAttribHook (driver : Driver) (name : Int) (valueGiven : Bool)
    (s : EglState) (dpy : Nat) : Except Fault (EglState × Bool × Option Int) :=
  runHook (false, none) (queryDisplayAttribBody driver name valueGiven) s dpy

/-!
# Global teardown

`destroyAllLoop` is the loop of `wlEglDestroyAllDisplays` over the displays still to visit.
-/

/-- One display of the loop in `wlEglDestroyAllDisplays` that belongs to the platform
data: force-terminate it, disconnect an owned connection, clear `devDpy`, unlink it and
drop the directory's reference. -/
def destroyDisplay (driver : Driver) (s : EglState) (a : Nat) (d : WlEglDisplay) :
    Except Fault (EglState × Bool) := do
  let (s, ok) ← terminateDisplay driver s a true
  let s := if d.ownNativeDpy then s.log (.displayDisconnect d.nativeDpy) else s
  let d ← s.readDisplay a
  let s := { s.setDisplay a { d with devDpy := 0 } with
    wlEglDisplayList := s.wlEglDisplayList.erase a }
  let s ← wlEglUnrefDisplay s a
  pure (s, ok)

def destroyAllLoop (driver : Driver) (data : Nat) : EglState × Bool → List Nat →
    Except Fault (EglState × Bool)
  | r, [] => .ok r
  | (s, res), a :: rest => do
      let d ← s.readDisplay a
      if d.data = data then
        let (s, ok) ← destroyDisplay driver s a d
        destroyAllLoop driver data (s, ok && res) rest
      else destroyAllLoop driver data (s, res) rest

def wlEglDestroyAllDisplays (driver : Driver) (s : EglState) (data : Nat) :
    Except Fault (EglState × Bool) := do
  let (s, res) ← destroyAllLoop driver data (s, true) s.wlEglDisplayList
  let s ← wlFreeAllInternalDisplays s data
  pure (s, res)

end Display
end EglWayland
