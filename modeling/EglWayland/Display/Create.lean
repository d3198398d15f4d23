import EglWayland.Display.Device
import EglWayland.Display.Probe

/-!
# Creating a display

`wlEglGetPlatformDisplayExport` parses the attribute list, looks the request up in
`wlEglDisplayList` under the process-wide lock, and on a miss builds a new `WlEglDisplay`:
it connects to the default compositor when the caller gave no connection, probes the
compositor's protocols, enumerates the driver's devices, resolves a device registry entry
and opens the DRM device, then links the display at the head of the directory.

What the compositor, the driver and the C library answer along the way is a `CreateEnv`.
-/

namespace EglWayland
namespace Display

open EglState

/-!
# The vendor check

`DrmDevice` is what `drmGetDevice` reports of a device: the path of its render node when
`available_nodes` has `DRM_NODE_RENDER`, its bus type and its PCI vendor id.  The device is
NVIDIA's when it is on `DRM_BUS_PCI` with vendor `0x10de` or, failing that, when the name
`drmGetVersion` reports is one of NVIDIA's drivers.  The check closes the descriptor it opens,
on every path, and no other.
-/

def drmBusPci : Nat := 0

structure DrmDevice where
  renderNode : Option String
  busType : Nat
  vendorId : Nat

/-- The answers `checkNvidiaDrmDevice` gets: `open(path, O_RDWR)` (negative on failure),
`drmGetDevice` and `drmGetVersion` on the descriptor (`none` on failure; the version's name
may be `NULL`), and whether the `strdup` of a render node's path succeeds. -/
structure DrmEnv where
  openFd : String → Int
  drmGetDevice : Int → Option DrmDevice
  drmGetVersion : Int → Option (Option String)
  strdupOk : Bool

def DrmDevice.isNvidiaPci (dev : DrmDevice) : Bool :=
  dev.busType = drmBusPci && dev.vendorId = 0x10de

def isNvidiaDriverName (env : DrmEnv) (fd : Int) : Bool :=
  match env.drmGetVersion fd with
  | some (some name) => name = "nvidia-drm" || name = "tegra-udrm" || name = "tegra"
  | _ => false

/-- `checkNvidiaDrmDevice`: whether the device at `protocols->drm_name` is an NVIDIA one,
the path it leaves in `drm_name`, and the descriptor it closes at `done:`.  A failed
`strdup` of the render node's path jumps to `done:` before the vendor tests. -/
def checkNvidiaDrmDevice (env : DrmEnv) (drmName : Option String) :
    Bool × Option String × List Effect :=
  match drmName with
  | none => (false, none, [])
  | some name =>
      let fd := env.openFd name
      if fd < 0 then (false, some name, [])
      else match env.drmGetDevice fd with
        | none => (isNvidiaDriverName env fd, some name, [.close fd])
        | some dev =>
            match dev.renderNode with
            | some node =>
                if name ≠ node ∧ !env.strdupOk then (false, none, [.close fd])
                else (dev.isNvidiaPci || isNvidiaDriverName env fd, some node, [.close fd])
            | none => (dev.isNvidiaPci || isNvidiaDriverName env fd, some name, [.close fd])

theorem checkNvidiaDrmDevice_effects (env : DrmEnv) (drmName : Option String) :
    (checkNvidiaDrmDevice env drmName).2.2 =
      match drmName with
      | some name => if env.openFd name < 0 then [] else [.close (env.openFd name)]
      | none => [] := by
  rcases drmName with _ | name
  · rfl
  simp only [checkNvidiaDrmDevice]
  split_ifs
  · rfl
  rcases env.drmGetDevice (env.openFd name) with _ | ⟨_ | node, _, _⟩
  · rfl
  · rfl
  · dsimp only
    split_ifs <;> rfl

/-- The answers `wlEglGetPlatformDisplayExport` gets while it builds a display: `calloc`,
`wl_display_connect(NULL)` (`0` on failure), whether `__NV_PRIME_RENDER_OFFLOAD` is `"1"`,
what the protocol probe and the vendor check meet, the devices
`queryDevices` returns (`none` when a query or the list's `calloc` fails), what
`wlGetInternalDisplay` learns, and the result of `open` on the DRM device (`none` when
`queryDeviceString` gives no file name). -/
structure CreateEnv where
  callocOk : Bool
  connect : Nat
  primeRenderOffload : Bool
  probe : ProbeEnv
  drm : DrmEnv
  queryDevices : Option (List Int)
  device : DeviceEnv
  drmFd : Option Int

/-! # Attributes and lookup -/

/-- The attribute loop, over the (name, value) pairs of the list; it stops at the first
`EGL_NONE` name.  The result is `useInitRefCount` and `requestedDevice`, or the error
code to report. -/
def parseAttribs : List (Int × Int) → Bool → Int → Except Int (Bool × Int)
  | [], useInitRefCount, requestedDevice => .ok (useInitRefCount, requestedDevice)
  | (name, value) :: rest, useInitRefCount, requestedDevice =>
      if name = eglNone then .ok (useInitRefCount, requestedDevice)
      else if name = eglTrackReferencesKhr then
        if value = eglTrue ∨ value = eglFalse then parseAttribs rest (value = eglTrue) requestedDevice
        else .error eglBadAttribute
      else if name = eglDeviceExt then
        if value = eglNoDeviceExt then .error eglBadDeviceExt
        else parseAttribs rest useInitRefCount value
      else .error eglBadAttribute

def parseDisplayAttribs : Option (List (Int × Int)) → Except Int (Bool × Int)
  | none => .ok (false, eglNoDeviceExt)
  | some attribs => parseAttribs attribs false eglNoDeviceExt

def WlEglDisplay.matches (d : WlEglDisplay) (nativeDpy : Nat) (useInitRefCount : Bool)
    (requestedDevice : Int) : Bool :=
  (d.nativeDpy == nativeDpy || (nativeDpy == 0 && d.ownNativeDpy)) &&
    d.useInitRefCount == useInitRefCount && d.requestedDevice == requestedDevice

def lookupDisplay (s : EglState) (nativeDpy : Nat) (useInitRefCount : Bool)
    (requestedDevice : Int) : List Nat → Except Fault (Option Nat)
  | [] => .ok none
  | a :: rest => do
      let d ← s.readDisplay a
      if d.matches nativeDpy useInitRefCount requestedDevice then pure (some a)
      else lookupDisplay s nativeDpy useInitRefCount requestedDevice rest

/-!
# Creation

`createFail` is the `fail:` label: it disconnects an owned connection, frees the display and
reports `err` unless it is `EGL_SUCCESS`.  `newDisplay` is the display as `calloc` and the first
assignments leave it, and `attachDevice` the part of creation after the connection: device
resolution, the DRM device, and the insertion at the head of `wlEglDisplayList`.
-/

def createFail (s : EglState) (display : Option WlEglDisplay) (err : Int) : EglState × Nat :=
  let s := match display with
    | some d => if d.ownNativeDpy then s.log (.displayDisconnect d.nativeDpy) else s
    | none => s
  (if err = eglSuccess then s else s.setError err, 0)

def newDisplay (data nativeDpy : Nat) (useInitRefCount : Bool) (requestedDevice : Int) :
    WlEglDisplay :=
  ⟨data, nativeDpy, false, useInitRefCount, requestedDevice, 0, 0, 0, 0⟩

def connectDisplay (env : CreateEnv) (display : WlEglDisplay) : Option WlEglDisplay :=
  if display.nativeDpy = 0 then
    if env.connect = 0 then none
    else some { display with nativeDpy := env.connect, ownNativeDpy := true }
  else some display

def attachDevice (env : CreateEnv) (s : EglState) (a : Nat) (display : WlEglDisplay) :
    Except Fault (EglState × Nat) := do
  -- eglDevice: initialised to NULL and never assigned
  let eglDevice : Int := eglNoDeviceExt
  let (s, devDpy) ← wlGetInternalDisplay env.device s display.data eglDevice
  if devDpy = 0 then pure (createFail s (some display) eglSuccess)
  else
    let _ ← s.readDevDpy devDpy
    match env.drmFd with
    | none => pure (createFail s (some display) eglSuccess)
    | some fd =>
        if fd < 0 then pure (createFail s (some display) eglSuccess)
        else
          let s := s.setDisplay a { display with devDpy := devDpy, drmFd := fd }
          pure ({ s with wlEglDisplayList := a :: s.wlEglDisplayList }, a)

def createDisplay (env : CreateEnv) (s : EglState) (data nativeDpy : Nat)
    (useInitRefCount : Bool) (requestedDevice : Int) : Except Fault (EglState × Nat) :=
  if env.callocOk then
    let (s, a) := s.alloc
    match connectDisplay env (newDisplay data nativeDpy useInitRefCount requestedDevice) with
    | none => .ok (createFail s none eglBadAlloc)
    | some display =>
        match getServerProtocolsInfo env.probe with
        | .error e => .error e
        | .ok (false, _) => .ok (createFail s (some display) eglBadAlloc)
        | .ok (true, probe) =>
            let (isServerNV, _, closes) := checkNvidiaDrmDevice env.drm probe.protocols.drmName
            let s := { s with effects := s.effects ++ closes }
            if !env.primeRenderOffload ∧ requestedDevice = eglNoDeviceExt ∧ !isServerNV then
              .ok (createFail s (some display) eglSuccess)
            else if !probe.protocols.hasEglStream ∧ !probe.protocols.hasDmaBuf then
              .ok (createFail s (some display) eglSuccess)
            else match env.queryDevices with
              | none | some [] => .ok (createFail s (some display) eglSuccess)
              | some (_ :: _) => attachDevice env s a display
  else .ok (createFail s none eglBadAlloc)

/-- `wlEglGetPlatformDisplayExport(data, platform, nativeDpy, attribs)`: the display's
address, or `0` for `EGL_NO_DISPLAY`. -/
def wlEglGetPlatformDisplayExport (env : CreateEnv) (s : EglState) (data platform nativeDpy : Nat)
    (attribs : Option (List (Int × Int))) : Except Fault (EglState × Nat) :=
  if platform ≠ eglPlatformWaylandExt then .ok (s.setError eglBadParameter, 0)
  else match parseDisplayAttribs attribs with
    | .error err => .ok (s.setError err, 0)
    | .ok (useInitRefCount, requestedDevice) => do
        match ← lookupDisplay s nativeDpy useInitRefCount requestedDevice s.wlEglDisplayList with
        | some a => pure (s, a)
        | none => createDisplay env s data nativeDpy useInitRefCount requestedDevice

/-! # What a creation can do to the directory -/

/-- `s'` has the directory of `s`: the same displays and list, and no address handed back
to the allocator. -/
structure SameDirectory (s s' : EglState) : Prop where
  displays : s'.displays = s.displays
  list : s'.wlEglDisplayList = s.wlEglDisplayList
  nextAddr : s.nextAddr ≤ s'.nextAddr

theorem SameDirectory.refl (s : EglState) : SameDirectory s s := ⟨rfl, rfl, le_rfl⟩

theorem SameDirectory.trans {s₁ s₂ s₃ : EglState} (h₁ : SameDirectory s₁ s₂)
    (h₂ : SameDirectory s₂ s₃) : SameDirectory s₁ s₃ :=
  ⟨h₂.displays.trans h₁.displays, h₂.list.trans h₁.list, h₁.nextAddr.trans h₂.nextAddr⟩

theorem SameDirectory.withEffects {s t : EglState} (h : SameDirectory s t) (es : List Effect) :
    SameDirectory s { t with effects := es } :=
  ⟨h.displays, h.list, h.nextAddr⟩

theorem createFail_spec {s s₀ s' : EglState} {display : Option WlEglDisplay} {err : Int}
    {r : Nat} (hs : SameDirectory s s₀) (hf : createFail s₀ display err = (s', r)) :
    r = 0 ∧ SameDirectory s s' := by
  have h0 : (createFail s₀ display err).2 = 0 := rfl
  have hs' : SameDirectory s₀ (createFail s₀ display err).1 := by
    unfold createFail
    repeat' split
    all_goals exact ⟨rfl, rfl, le_rfl⟩
  rw [hf] at h0 hs'
  exact ⟨h0, hs.trans hs'⟩

theorem createFail_errors {s s' : EglState} {display : Option WlEglDisplay} {err : Int}
    {r : Nat} (hf : createFail s display err = (s', r)) :
    ∃ es, s'.effects = s.effects ++ es ∧
      ∀ e, Effect.setError e ∈ es ↔ err ≠ eglSuccess ∧ e = err := by
  rw [← show (createFail s display err).1 = s' from congrArg Prod.fst hf]
  have herrs : ∀ (t : EglState) (es : List Effect), t.effects = s.effects ++ es →
      (∀ e, Effect.setError e ∉ es) →
      ∃ es, (if err = eglSuccess then t else t.setError err).effects = s.effects ++ es ∧
        ∀ e, Effect.setError e ∈ es ↔ err ≠ eglSuccess ∧ e = err := by
    intro t es ht hno
    by_cases herr : err = eglSuccess
    · exact ⟨es, by simp [herr, ht], fun e => by simp [herr, hno e]⟩
    · exact ⟨es ++ [.setError err], by simp [herr, ht, EglState.setError, EglState.log],
        fun e => by simp [herr, hno e]⟩
  unfold createFail
  rcases display with _ | d
  · exact herrs s [] (by simp) (by simp)
  · by_cases hown : d.ownNativeDpy = true
    · exact herrs _ [.displayDisconnect d.nativeDpy] (by simp [hown, EglState.log]) (by simp)
    · exact herrs _ [] (by simp [hown]) (by simp)

theorem sameDirectory_alloc (s : EglState) : SameDirectory s s.alloc.1 :=
  ⟨rfl, rfl, Nat.le_succ _⟩

theorem attachDevice_spec {env : CreateEnv} {s s' : EglState} {a r : Nat}
    {display : WlEglDisplay} (h : attachDevice env s a display = .ok (s', r)) :
    (r = 0 ∧ SameDirectory s s') ∨
    (r = a ∧ s'.wlEglDisplayList = a :: s.wlEglDisplayList ∧ s.nextAddr ≤ s'.nextAddr ∧
      ∃ devDpy fd dd, s'.displays =
          Function.update s.displays a (some { display with devDpy := devDpy, drmFd := fd }) ∧
        s'.devDpys devDpy = some dd ∧ dd.eglDevice = eglNoDeviceExt) := by
  obtain ⟨⟨s₂, devDpy⟩, hget, h⟩ := except_bind_eq_ok.1 h
  obtain ⟨hdisp, hlist, hnext, hentry⟩ := wlGetInternalDisplay_spec hget
  have hsame : SameDirectory s s₂ := ⟨hdisp, hlist, hnext⟩
  simp only at h
  split_ifs at h with h0
  · exact .inl (createFail_spec hsame (by simpa using h))
  obtain ⟨dd, hdd, hdev⟩ := hentry h0
  rw [s₂.readDevDpy_of_live h0 hdd, except_ok_bind] at h
  rcases hfd : env.drmFd with _ | fd
  · exact .inl (createFail_spec hsame (by simpa [hfd] using h))
  · simp only [hfd] at h
    split_ifs at h with hneg
    · exact .inl (createFail_spec hsame (by simpa using h))
    · obtain ⟨rfl, rfl⟩ : _ = s' ∧ a = r := by simpa using h
      exact .inr ⟨rfl, by simp [hlist], by simpa using hnext, devDpy, fd, dd,
        by simp [hdisp], by simpa using hdd, hdev⟩

structure NewKey (env : CreateEnv) (data nativeDpy : Nat) (useInitRefCount : Bool)
    (requestedDevice : Int) (d : WlEglDisplay) : Prop where
  data : d.data = data
  useInitRefCount : d.useInitRefCount = useInitRefCount
  requestedDevice : d.requestedDevice = requestedDevice
  initCount : d.initCount = 0
  refCount : d.refCount = 0
  given : nativeDpy ≠ 0 → d.nativeDpy = nativeDpy ∧ d.ownNativeDpy = false
  owned : nativeDpy = 0 → d.nativeDpy = env.connect ∧ env.connect ≠ 0 ∧ d.ownNativeDpy = true

theorem connectDisplay_newKey {env : CreateEnv} {data nativeDpy : Nat} {u : Bool} {dev : Int}
    {display : WlEglDisplay}
    (h : connectDisplay env (newDisplay data nativeDpy u dev) = some display) :
    NewKey env data nativeDpy u dev display := by
  unfold connectDisplay at h
  split_ifs at h with h0 h1 <;> cases h
  · exact ⟨rfl, rfl, rfl, rfl, rfl, fun h => absurd h0 h, fun _ => ⟨rfl, h1, rfl⟩⟩
  · exact ⟨rfl, rfl, rfl, rfl, rfl, fun _ => ⟨rfl, rfl⟩, fun h => absurd h h0⟩

/-- A creation either fails and leaves the directory, or links a display with the key it
was asked for at the next fresh address. -/
theorem createDisplay_spec {env : CreateEnv} {s s' : EglState} {data nativeDpy r : Nat}
    {u : Bool} {dev : Int} (h : createDisplay env s data nativeDpy u dev = .ok (s', r)) :
    (r = 0 ∧ SameDirectory s s') ∨
    (r = s.nextAddr ∧ s'.wlEglDisplayList = r :: s.wlEglDisplayList ∧ s.nextAddr < s'.nextAddr ∧
      ∃ d dd, s'.displays = Function.update s.displays r (some d) ∧ NewKey env data nativeDpy u dev d ∧
        s'.devDpys d.devDpy = some dd ∧ dd.eglDevice = eglNoDeviceExt) := by
  have halloc := sameDirectory_alloc s
  unfold createDisplay at h
  by_cases hc : env.callocOk = true
  swap
  · rw [if_neg hc] at h
    exact .inl (createFail_spec (.refl s) (Except.ok.inj h))
  simp only [hc, ite_true, alloc] at h halloc
  rcases hconn : connectDisplay env (newDisplay data nativeDpy u dev) with _ | display
  · rw [hconn] at h
    exact .inl (createFail_spec halloc (Except.ok.inj h))
  have hkey := connectDisplay_newKey hconn
  rw [hconn] at h
  rcases hprobe : getServerProtocolsInfo env.probe with e | ⟨_ | _, probe⟩ <;> rw [hprobe] at h
  · cases h
  · exact .inl (createFail_spec halloc (Except.ok.inj h))
  rcases hcheck : checkNvidiaDrmDevice env.drm probe.protocols.drmName with ⟨isServerNV, _, closes⟩
  simp only [hcheck] at h
  replace halloc := halloc.withEffects (s.effects ++ closes)
  by_cases hnv : (!env.primeRenderOffload) = true ∧ dev = eglNoDeviceExt ∧ (!isServerNV) = true
  · rw [if_pos hnv] at h
    exact .inl (createFail_spec halloc (Except.ok.inj h))
  rw [if_neg hnv] at h
  by_cases hpr : (!probe.protocols.hasEglStream) = true ∧ (!probe.protocols.hasDmaBuf) = true
  · rw [if_pos hpr] at h
    exact .inl (createFail_spec halloc (Except.ok.inj h))
  rw [if_neg hpr] at h
  rcases hq : env.queryDevices with _ | _ | ⟨_, _⟩ <;> rw [hq] at h
  · exact .inl (createFail_spec halloc (Except.ok.inj h))
  · exact .inl (createFail_spec halloc (Except.ok.inj h))
  rcases attachDevice_spec h with ⟨h0, hs⟩ | ⟨rfl, hlist, hnext, devDpy, fd, dd, hdisp, hdd, hdev⟩
  · exact .inl ⟨h0, halloc.trans hs⟩
  · refine .inr ⟨rfl, hlist, Nat.lt_of_lt_of_le (Nat.lt_succ_self _) hnext, _, dd, hdisp,
      ⟨hkey.data, hkey.useInitRefCount, hkey.requestedDevice, hkey.initCount, hkey.refCount,
        hkey.given, hkey.owned⟩, hdd, hdev⟩

/-!
# Lookup

A lookup that misses has read every listed display and found none matching, and one that has a
single matching display finds it.  A call either leaves the directory, returning
`EGL_NO_DISPLAY` or a listed display, or misses in the lookup and creates.
-/

section Lookup

variable {s : EglState} {nativeDpy : Nat} {u : Bool} {dev : Int}

theorem lookupDisplay_some_mem {a : Nat} :
    ∀ {l : List Nat}, lookupDisplay s nativeDpy u dev l = .ok (some a) → a ∈ l
  | [], h => nomatch h
  | b :: rest, h => by
      obtain ⟨db, -, h⟩ := except_bind_eq_ok.1 h
      split_ifs at h
      · cases h
        exact List.mem_cons_self _ _
      · exact List.mem_cons_of_mem _ (lookupDisplay_some_mem h)

theorem lookupDisplay_none :
    ∀ {l : List Nat}, lookupDisplay s nativeDpy u dev l = .ok none →
      ∀ a ∈ l, ∀ d, s.displays a = some d → d.matches nativeDpy u dev = false
  | [], _ => by simp
  | b :: rest, h => by
      obtain ⟨db, hread, h⟩ := except_bind_eq_ok.1 h
      have hdb := (s.readDisplay_eq_ok.1 hread).2
      split_ifs at h with hm
      · cases h
      · intro a ha d hd
        rcases List.mem_cons.1 ha with rfl | ha
        · rw [hdb] at hd
          cases hd
          simpa using hm
        · exact lookupDisplay_none h a ha d hd

theorem lookupDisplay_unique {a : Nat} {d : WlEglDisplay} (hd : s.displays a = some d)
    (hm : d.matches nativeDpy u dev = true) :
    ∀ {l : List Nat}, a ∈ l → (∀ b ∈ l, b ≠ 0 ∧ ∃ db, s.displays b = some db) →
      (∀ b ∈ l, ∀ db, s.displays b = some db → db.matches nativeDpy u dev = true → b = a) →
      lookupDisplay s nativeDpy u dev l = .ok (some a)
  | [], ha, _, _ => nomatch ha
  | b :: rest, ha, hlive, huniq => by
      obtain ⟨hb0, db, hdb⟩ := hlive b (List.mem_cons_self _ _)
      simp only [lookupDisplay, s.readDisplay_of_live hb0 hdb, except_ok_bind]
      by_cases hmb : db.matches nativeDpy u dev = true
      · rw [if_pos hmb, huniq b (List.mem_cons_self _ _) db hdb hmb]
        rfl
      · rw [if_neg hmb]
        have hab : a ≠ b := by
          rintro rfl
          rw [hd] at hdb
          cases hdb
          exact hmb hm
        exact lookupDisplay_unique hd hm ((List.mem_cons.1 ha).resolve_left hab)
          (fun c hc => hlive c (List.mem_cons_of_mem _ hc))
          (fun c hc => huniq c (List.mem_cons_of_mem _ hc))

end Lookup

theorem wlEglGetPlatformDisplayExport_cases {env : CreateEnv} {s s' : EglState}
    {data platform nativeDpy r : Nat} {attribs : Option (List (Int × Int))}
    (h : wlEglGetPlatformDisplayExport env s data platform nativeDpy attribs = .ok (s', r)) :
    (SameDirectory s s' ∧ (r = 0 ∨ r ∈ s.wlEglDisplayList)) ∨
    ∃ u dev, lookupDisplay s nativeDpy u dev s.wlEglDisplayList = .ok none ∧
      createDisplay env s data nativeDpy u dev = .ok (s', r) := by
  have herr : ∀ err, ((s.setError err, 0) : EglState × Nat) = (s', r) →
      SameDirectory s s' ∧ (r = 0 ∨ r ∈ s.wlEglDisplayList) := fun err he => by
    cases he
    exact ⟨⟨rfl, rfl, le_rfl⟩, .inl rfl⟩
  unfold wlEglGetPlatformDisplayExport at h
  split_ifs at h
  · exact .inl (herr _ (Except.ok.inj h))
  rcases hparse : parseDisplayAttribs attribs with err | ⟨u, dev⟩ <;> rw [hparse] at h
  · exact .inl (herr _ (Except.ok.inj h))
  obtain ⟨found, hlook, h⟩ := except_bind_eq_ok.1 h
  rcases found with _ | a
  · exact .inr ⟨u, dev, hlook, h⟩
  · cases h
    exact .inl ⟨.refl s, .inr (lookupDisplay_some_mem hlook)⟩

/-! # A working compositor -/

def workingCompositor : CreateEnv where
  callocOk := true
  connect := 100
  primeRenderOffload := false
  probe := ⟨fun _ => true, [.global "zwp_linux_dmabuf_v1" 3, .global "wl_drm" 2,
    .drmDevice 4 "/dev/dri/renderD128"], [], none⟩
  drm := ⟨fun _ => 5, fun _ => some ⟨some "/dev/dri/renderD128", drmBusPci, 0x10de⟩,
    fun _ => none, true⟩
  queryDevices := some [7]
  device := ⟨true, 50, some 226, some 128⟩
  drmFd := some 3

/-!
# Failures the vendor check hides

When the vendor check cannot open the device path the probe found, or cannot copy the path of
the device's render node, and the caller neither requested a device nor forced render offload,
creation abandons the display as it does for another vendor's GPU: it returns
`EGL_NO_DISPLAY`, changes no part of the directory and reports no error.
-/

theorem checkNvidiaDrmDevice_of_failure {env : DrmEnv} {name : String}
    (hfail : env.openFd name < 0 ∨
      ∃ dev node, env.drmGetDevice (env.openFd name) = some dev ∧
        dev.renderNode = some node ∧ name ≠ node ∧ env.strdupOk = false) :
    (checkNvidiaDrmDevice env (some name)).1 = false := by
  by_cases hopen : env.openFd name < 0
  · simp [checkNvidiaDrmDevice, hopen]
  obtain ⟨dev, node, hdev, hnode, hne, hdup⟩ := hfail.resolve_left hopen
  simp [checkNvidiaDrmDevice, hopen, hdev, hnode, hne, hdup]

theorem createDisplay_hides_vendor_check_failure {env : CreateEnv} {s : EglState}
    {data nativeDpy : Nat} {u : Bool} {display : WlEglDisplay} {probe : Probe} {name : String}
    (hc : env.callocOk = true)
    (hconn : connectDisplay env (newDisplay data nativeDpy u eglNoDeviceExt) = some display)
    (hprobe : getServerProtocolsInfo env.probe = .ok (true, probe))
    (hname : probe.protocols.drmName = some name) (hprime : env.primeRenderOffload = false)
    (hfail : env.drm.openFd name < 0 ∨
      ∃ dev node, env.drm.drmGetDevice (env.drm.openFd name) = some dev ∧
        dev.renderNode = some node ∧ name ≠ node ∧ env.drm.strdupOk = false) :
    ∃ s' es, createDisplay env s data nativeDpy u eglNoDeviceExt = .ok (s', 0) ∧
      SameDirectory s s' ∧ s'.effects = s.effects ++ es ∧ ∀ err, Effect.setError err ∉ es := by
  rcases hcheck : checkNvidiaDrmDevice env.drm (some name) with ⟨isServerNV, _, closes⟩
  have hnv := checkNvidiaDrmDevice_of_failure hfail
  have hcl := checkNvidiaDrmDevice_effects env.drm (some name)
  rw [hcheck] at hnv hcl
  subst hnv
  have hcd : createDisplay env s data nativeDpy u eglNoDeviceExt =
      .ok (createFail { s.alloc.1 with effects := s.alloc.1.effects ++ closes } (some display)
        eglSuccess) := by
    simp [createDisplay, hc, hconn, hprobe, hname, hcheck, hprime]
  rcases hf : createFail { s.alloc.1 with effects := s.alloc.1.effects ++ closes } (some display)
    eglSuccess with ⟨s', r⟩
  obtain ⟨rfl, hsame⟩ := createFail_spec ((sameDirectory_alloc s).withEffects _) hf
  obtain ⟨es, hes, herr⟩ := createFail_errors hf
  refine ⟨s', closes ++ es, by rw [hcd, hf], hsame, by rw [hes]; simp [alloc], fun err hmem => ?_⟩
  rcases List.mem_append.1 hmem with hc | he
  · simp only at hcl
    split_ifs at hcl <;> simp [hcl] at hc
  · exact ((herr err).1 he).1 rfl

/-! # Compositors that name no device -/

end Display
end EglWayland
