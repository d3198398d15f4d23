import EglWayland.Display.State

/-!
# The device registry

`wayland-egldevice.c` caches one `WlEglDeviceDpy` per (platform data, `EGLDeviceEXT`) pair
in the platform data's `deviceDpyList`: `wlGetInternalDisplay` finds or creates the entry,
`wlInternalInitialize` and `wlInternalTerminate` count the displays that use it and call
the driver on the first and the last of them, and `wlFreeAllInternalDisplays` releases
every entry of one platform data at global teardown.

The registry's lists are intrusive `wl_list`s, so the loops below walk a snapshot of the
list, as `wl_list_for_each_safe` does when each step unlinks only its own node.
-/

namespace EglWayland
namespace Display

open EglState

/-- What `wlGetInternalDisplay` learns while it builds an entry: whether `calloc`
succeeds, the `EGLDisplay` from `getPlatformDisplay` (`0` for `EGL_NO_DISPLAY`), and the
`st_rdev` of the DRM device file and of the render node (`none` when
`queryDeviceString` returns `NULL` or `stat` fails). -/
structure DeviceEnv where
  callocOk : Bool
  eglDisplay : Nat
  dev : Option Nat
  renderNode : Option Nat

/-! # Lookup and creation -/

/-- `wl_list_for_each(devDpy, &data->deviceDpyList, link)`: the first entry of `data`
and `device`. -/
def findDeviceDpy (s : EglState) (data : Nat) (device : Int) : List Nat → Except Fault (Option Nat)
  | [] => .ok none
  | e :: rest => do
      let dd ← s.readDevDpy e
      if dd.data = data ∧ dd.eglDevice = device then pure (some e)
      else findDeviceDpy s data device rest

/-- The new entry: its fields as `wlGetInternalDisplay` sets them, the rest zeroed by
`calloc`. -/
def newDeviceDpy (data : Nat) (device : Int) (eglDisplay dev renderNode : Nat) :
    WlEglDeviceDpy :=
  ⟨eglDisplay, device, data, 0, 0, 0, dev, renderNode⟩

/-- `wlGetInternalDisplay(data, device)`: the entry's address, or `0` (`NULL`). A new
entry goes to the head of `data->deviceDpyList`; one that fails part way is freed and
never linked. -/
def wlGetInternalDisplay (env : DeviceEnv) (s : EglState) (data : Nat) (device : Int) :
    Except Fault (EglState × Nat) := do
  match ← findDeviceDpy s data device (s.deviceDpyList data) with
  | some e => pure (s, e)
  | none =>
      if env.callocOk then
        let (s, e) := s.alloc
        let s := s.log (.eglGetPlatformDisplay device (s.supportsDisplayReference data))
        match env.eglDisplay, env.dev, env.renderNode with
        | 0, _, _ => pure (s, 0)
        | eglDisplay + 1, some dev, some renderNode =>
            pure ({ s.setDevDpy e (newDeviceDpy data device (eglDisplay + 1) dev renderNode) with
              deviceDpyList := Function.update s.deviceDpyList data (e :: s.deviceDpyList data) },
              e)
        | _, _, _ => pure (s, 0)
      else pure (s, 0)

theorem findDeviceDpy_some {s : EglState} {data : Nat} {device : Int} {e : Nat} :
    ∀ {l : List Nat}, findDeviceDpy s data device l = .ok (some e) →
      e ∈ l ∧ e ≠ 0 ∧ ∃ dd, s.devDpys e = some dd ∧ dd.data = data ∧ dd.eglDevice = device
  | [], h => nomatch h
  | e' :: rest, h => by
      obtain ⟨dd, hread, h⟩ := except_bind_eq_ok.1 h
      obtain ⟨he', hdd⟩ := s.readDevDpy_eq_ok.1 hread
      split_ifs at h with hmatch
      · cases h
        exact ⟨List.mem_cons_self _ _, he', dd, hdd, hmatch⟩
      · obtain ⟨hmem, hrest⟩ := findDeviceDpy_some h
        exact ⟨List.mem_cons_of_mem _ hmem, hrest⟩

/-- `wlGetInternalDisplay` touches no display, only allocates, and an entry it returns is
live and has the device it was asked for. -/
theorem wlGetInternalDisplay_spec {env : DeviceEnv} {s s' : EglState} {data : Nat}
    {device : Int} {e : Nat} (h : wlGetInternalDisplay env s data device = .ok (s', e)) :
    s'.displays = s.displays ∧ s'.wlEglDisplayList = s.wlEglDisplayList ∧
      s.nextAddr ≤ s'.nextAddr ∧
      (e ≠ 0 → ∃ dd, s'.devDpys e = some dd ∧ dd.eglDevice = device) := by
  obtain ⟨found, hfind, h⟩ := except_bind_eq_ok.1 h
  rcases found with _ | e'
  · simp only at h
    split_ifs at h
    · simp only [EglState.alloc] at h
      rcases henv : env.eglDisplay with _ | eglDisplay <;>
        rcases hdev : env.dev with _ | dev <;> rcases hrn : env.renderNode with _ | rn <;>
        simp only [henv, hdev, hrn, except_pure, Except.ok.injEq, Prod.mk.injEq] at h <;>
        obtain ⟨rfl, rfl⟩ := h <;> simp [newDeviceDpy]
    · obtain ⟨rfl, rfl⟩ : s = s' ∧ 0 = e := by simpa using h
      simp
  · obtain ⟨rfl, rfl⟩ : s = s' ∧ e' = e := by simpa using h
    obtain ⟨-, -, dd, hdd, -, hdev⟩ := findDeviceDpy_some hfind
    exact ⟨rfl, rfl, le_rfl, fun _ => ⟨dd, hdd, hdev⟩⟩

/-! # Counting initializations -/

/-- `wlInternalInitialize(devDpy)`: the driver is initialized when the count leaves `0`. -/
def wlInternalInitialize (driver : Driver) (s : EglState) (e : Nat) :
    Except Fault (EglState × Bool) := do
  let dd ← s.readDevDpy e
  if dd.initCount = 0 then
    let s := s.log (.eglInitialize dd.eglDisplay)
    match driver.eglInitialize dd.eglDisplay with
    | none => pure (s, false)
    | some (major, minor) =>
        pure (s.setDevDpy e { dd with initCount := 1, major := major, minor := minor }, true)
  else pure (s.setDevDpy e { dd with initCount := dd.initCount + 1 }, true)

/-- `wlInternalTerminate(devDpy)`: the driver is terminated when the count leaves `1`; a
failed `terminate` leaves the count as it was. -/
def wlInternalTerminate (driver : Driver) (s : EglState) (e : Nat) :
    Except Fault (EglState × Bool) := do
  let dd ← s.readDevDpy e
  if dd.initCount = 0 then pure (s, true)
  else if dd.initCount = 1 then
    let s := s.log (.eglTerminate dd.eglDisplay)
    if driver.eglTerminate dd.eglDisplay then
      pure (s.setDevDpy e { dd with initCount := 0 }, true)
    else pure (s, false)
  else pure (s.setDevDpy e { dd with initCount := dd.initCount - 1 }, true)

/-!
# Teardown

`freeAllLoop` is the loop of `wlFreeAllInternalDisplays` over the entries still to visit.
-/

/-- `wlFreeInternalDisplay(devDpy)`: terminate a still-initialized display (the result
is ignored), unlink the entry and free it. -/
def wlFreeInternalDisplay (s : EglState) (e : Nat) : Except Fault EglState := do
  let dd ← s.readDevDpy e
  let s := if 0 < dd.initCount then s.log (.eglTerminate dd.eglDisplay) else s
  pure { s with
    deviceDpyList := Function.update s.deviceDpyList dd.data ((s.deviceDpyList dd.data).erase e)
    devDpys := Function.update s.devDpys e none }

def freeAllLoop (data : Nat) (s : EglState) : List Nat → Except Fault EglState
  | [] => .ok s
  | e :: rest => do
      let dd ← s.readDevDpy e
      if dd.data ≠ data then .error .assertFailed
      else
        let s ← wlFreeInternalDisplay s e
        freeAllLoop data s rest

def wlFreeAllInternalDisplays (s : EglState) (data : Nat) : Except Fault EglState :=
  freeAllLoop data s (s.deviceDpyList data)

end Display
end EglWayland
