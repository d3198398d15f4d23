import EglWayland.Feedback.Machine

/-!
# The protocol probe

Before it builds a display, `wlEglGetPlatformDisplayExport` calls `getServerProtocolsInfo`
to learn which presentation protocols the compositor offers and which DRM device it
renders on.  The probe makes a private event queue, a wrapper of the connection on it and
a registry, and runs two round trips through `registry_handle_global_check_protocols` and
the `wl_drm` listener.  When a `zwp_linux_dmabuf_v1` proxy of version 4 is bound and
libdrm has `drmGetDeviceFromDevId`, a third round trip runs on a default feedback object,
whose `done` replaces the device path by the render node of its main device.  The probe
succeeds when some handler stored a device path.

The compositor's events, the allocator's answers and libdrm's lookup are a `ProbeEnv`.
Besides the `WlServerProtocols` record it fills, the probe's state keeps what its
resources need: the objects it made and has not destroyed, the proxies the registry
handler bound, and the file descriptors libwayland handed its handlers.
-/

namespace EglWayland
namespace Display

/-- `WlServerProtocols`: the two protocol flags, the bound `zwp_linux_dmabuf_v1` and
`wl_drm` proxies (`0` for `NULL`), the feedback's main device, and the DRM device path
(`none` for `NULL`). -/
structure WlServerProtocols where
  hasEglStream : Bool
  hasDmaBuf : Bool
  wlDmaBuf : Nat
  devId : Nat
  wlDrm : Nat
  drmName : Option String
  deriving DecidableEq, Repr

/-- The events the probe's listeners act on: a registry announcement (interface and
version), `wl_drm.device` on a proxy, and `main_device`, `format_table` and `done` of the
default feedback.  The events whose check handlers do nothing and carry no descriptor
are left out. -/
inductive ProbeEvent where
  | global (interface : String) (version : Nat)
  | drmDevice (proxy : Nat) (name : String)
  | mainDevice (dev : List UInt8)
  | formatTable (fd : Int) (size : Nat)
  | done
  deriving DecidableEq, Repr

def ProbeEvent.tableFd : ProbeEvent → Option Int
  | .formatTable fd _ => some fd
  | _ => none

/-- What the probe meets: the answer to its `n`-th allocation (the queue, the wrapper,
the registry, each bound proxy, the default feedback, each `strdup`), the events the two
registry round trips dispatch and those of the feedback round trip, and
`drmGetDeviceFromDevId` as `dlsym` finds it (`none` when libdrm lacks it), here the path
of a device's render node, `none` when the lookup fails or the device has none. -/
structure ProbeEnv where
  alloc : Nat → Bool
  roundtrips : List ProbeEvent
  feedbackRoundtrip : List ProbeEvent
  getDeviceFromDevId : Option (Nat → Option String)

/-- The probe's state: the record it fills; the objects it made and has not destroyed,
each named by the number of the allocation that made it; the `zwp_linux_dmabuf_v1` and
`wl_drm` proxies the registry handler bound (each `wl_drm` one carries `drmListener`); the
default feedback (`0` until it is made); the descriptors libwayland handed a handler; and
the number of allocations made so far. -/
structure Probe where
  protocols : WlServerProtocols
  live : List Nat
  dmaBufProxies : List Nat
  drmProxies : List Nat
  feedback : Nat
  fds : List Int
  allocs : Nat
  deriving DecidableEq, Repr

namespace Probe

def empty : Probe := ⟨⟨false, false, 0, 0, 0, none⟩, [], [], [], 0, [], 0⟩

def create (env : ProbeEnv) (st : Probe) : Probe × Nat :=
  if env.alloc st.allocs then
    ({ st with live := (st.allocs + 1) :: st.live, allocs := st.allocs + 1 }, st.allocs + 1)
  else ({ st with allocs := st.allocs + 1 }, 0)

def destroy (st : Probe) (obj : Nat) : Probe := { st with live := st.live.erase obj }

def replaceDrmName (env : ProbeEnv) (st : Probe) (name : String) : Probe :=
  { st with protocols.drmName := if env.alloc st.allocs then some name else none,
            allocs := st.allocs + 1 }

def bindDmaBuf (env : ProbeEnv) (st : Probe) : Probe :=
  let (st, proxy) := st.create env
  { st with protocols.wlDmaBuf := proxy,
            dmaBufProxies := if proxy = 0 then st.dmaBufProxies else proxy :: st.dmaBufProxies }

def bindDrm (env : ProbeEnv) (st : Probe) : Probe :=
  let (st, proxy) := st.create env
  { st with protocols.wlDrm := proxy,
            drmProxies := if proxy = 0 then st.drmProxies else proxy :: st.drmProxies }

def checkEglStream (st : Probe) (interface : String) : Probe :=
  if interface = "wl_eglstream_display" then { st with protocols.hasEglStream := true } else st

def checkDmaBuf (env : ProbeEnv) (st : Probe) (interface : String) (version : Nat) : Probe :=
  if interface = "zwp_linux_dmabuf_v1" ∧ 3 ≤ version then
    let st := { st with protocols.hasDmaBuf := true }
    if 4 ≤ version then st.bindDmaBuf env else st
  else st

def checkDrm (env : ProbeEnv) (st : Probe) (interface : String) (version : Nat) : Probe :=
  if interface = "wl_drm" ∧ 2 ≤ version then st.bindDrm env else st

end Probe

open Probe

def registryHandleGlobalCheckProtocols (env : ProbeEnv) (st : Probe) (interface : String)
    (version : Nat) : Probe :=
  ((st.checkEglStream interface).checkDmaBuf env interface version).checkDrm env interface version

def wlDrmDevice (env : ProbeEnv) (st : Probe) (name : String) : Probe :=
  st.replaceDrmName env name

def dmabufFeedbackCheckMainDevice (st : Probe) (dev : List UInt8) : Except Fault Probe := do
  let devId ← devOfArray dev
  pure { st with protocols.devId := devId }

def dmabufFeedbackCheckDone (env : ProbeEnv) (st : Probe) : Except Fault Probe :=
  match env.getDeviceFromDevId with
  | none => .error .assertFailed
  | some getDeviceFromDevId =>
      match getDeviceFromDevId st.protocols.devId with
      | none => .ok st
      | some node => .ok (st.replaceDrmName env node)

/-- Dispatching one event.  An event on an object that is not live, or on a `wl_drm`
proxy without the listener, reaches no handler, and libwayland closes the descriptor it
carries. -/
def probeDispatch (env : ProbeEnv) (st : Probe) : ProbeEvent → Except Fault Probe
  | .global interface version => .ok (registryHandleGlobalCheckProtocols env st interface version)
  | .drmDevice proxy name =>
      .ok (if proxy ∈ st.drmProxies ∧ proxy ∈ st.live then wlDrmDevice env st name else st)
  | .mainDevice dev =>
      if st.feedback ∈ st.live then dmabufFeedbackCheckMainDevice st dev else .ok st
  | .formatTable fd _ =>
      -- `dmabuf_feedback_check_format_table` neither maps nor closes the descriptor
      .ok (if st.feedback ∈ st.live then { st with fds := st.fds ++ [fd] } else st)
  | .done => if st.feedback ∈ st.live then dmabufFeedbackCheckDone env st else .ok st

def dispatchEvents (env : ProbeEnv) : Probe → List ProbeEvent → Except Fault Probe
  | st, [] => .ok st
  | st, ev :: evs => do
      let st ← probeDispatch env st ev
      dispatchEvents env st evs

def checkDefaultFeedback (env : ProbeEnv) (st : Probe) : Except Fault Probe :=
  if st.protocols.wlDmaBuf ≠ 0 ∧ env.getDeviceFromDevId.isSome then
    let (st, feedback) := st.create env
    if feedback = 0 then .ok st
    else do
      let st ← dispatchEvents env { st with feedback := feedback } env.feedbackRoundtrip
      pure (st.destroy feedback)
  else .ok st

def destroyStoredProxies (st : Probe) : Probe :=
  let st := if st.protocols.wlDmaBuf ≠ 0 then st.destroy st.protocols.wlDmaBuf else st
  if st.protocols.wlDrm ≠ 0 then st.destroy st.protocols.wlDrm else st

/-- `getServerProtocolsInfo`: whether a device path was found, and the probe's state when
it returns.  `wl_registry_add_listener` returns `0` on a registry that has no listener. -/
def getServerProtocolsInfo (env : ProbeEnv) : Except Fault (Bool × Probe) :=
  let (st, queue) := Probe.empty.create env
  if queue = 0 then .ok (false, st)
  else
    let (st, wrapper) := st.create env
    if wrapper = 0 then .ok (false, st.destroy queue)
    else
      let (st, wlRegistry) := st.create env
      if wlRegistry = 0 then .ok (false, (st.destroy wrapper).destroy queue)
      else do
        let st ← dispatchEvents env st env.roundtrips
        let st ← checkDefaultFeedback env st
        let result := st.protocols.drmName.isSome
        pure (result, (((destroyStoredProxies st).destroy wrapper).destroy wlRegistry).destroy queue)

/-! # What one event does -/

namespace Probe

variable {env : ProbeEnv} {st st' : Probe}

theorem bindDmaBuf_eq (env : ProbeEnv) (st : Probe) : st.bindDmaBuf env =
    if env.alloc st.allocs then
      { st with live := (st.allocs + 1) :: st.live, allocs := st.allocs + 1,
                protocols.wlDmaBuf := st.allocs + 1,
                dmaBufProxies := (st.allocs + 1) :: st.dmaBufProxies }
    else { st with allocs := st.allocs + 1, protocols.wlDmaBuf := 0 } := by
  cases h : env.alloc st.allocs <;> simp [bindDmaBuf, create, h]

theorem bindDrm_eq (env : ProbeEnv) (st : Probe) : st.bindDrm env =
    if env.alloc st.allocs then
      { st with live := (st.allocs + 1) :: st.live, allocs := st.allocs + 1,
                protocols.wlDrm := st.allocs + 1,
                drmProxies := (st.allocs + 1) :: st.drmProxies }
    else { st with allocs := st.allocs + 1, protocols.wlDrm := 0 } := by
  cases h : env.alloc st.allocs <;> simp [bindDrm, create, h]

end Probe

inductive DispatchOutcome (env : ProbeEnv) (st : Probe) : ProbeEvent → Probe → Prop
  | global (interface : String) (version : Nat) :
      DispatchOutcome env st (.global interface version)
        (registryHandleGlobalCheckProtocols env st interface version)
  | drmDevice (proxy : Nat) (name : String) : proxy ∈ st.drmProxies → proxy ∈ st.live →
      DispatchOutcome env st (.drmDevice proxy name) (wlDrmDevice env st name)
  | mainDevice (dev : List UInt8) (devId : Nat) : st.feedback ∈ st.live →
      devOfArray dev = .ok devId →
      DispatchOutcome env st (.mainDevice dev) { st with protocols.devId := devId }
  | formatTable (fd : Int) (size : Nat) : st.feedback ∈ st.live →
      DispatchOutcome env st (.formatTable fd size) { st with fds := st.fds ++ [fd] }
  | done (getDeviceFromDevId : Nat → Option String) (node : String) : st.feedback ∈ st.live →
      env.getDeviceFromDevId = some getDeviceFromDevId →
      getDeviceFromDevId st.protocols.devId = some node →
      DispatchOutcome env st .done (st.replaceDrmName env node)
  | unchanged (ev : ProbeEvent) : (st.feedback ∈ st.live → ev.tableFd = none) →
      DispatchOutcome env st ev st

section Dispatch

variable {env : ProbeEnv} {st st' : Probe} {ev : ProbeEvent}

theorem probeDispatch_outcome (h : probeDispatch env st ev = .ok st') :
    DispatchOutcome env st ev st' := by
  cases ev with
  | global interface version => cases h; exact .global interface version
  | drmDevice proxy name =>
    simp only [probeDispatch, Except.ok.injEq] at h
    split_ifs at h with hd <;> subst h
    · exact .drmDevice proxy name hd.1 hd.2
    · exact .unchanged _ fun _ => rfl
  | mainDevice dev =>
    simp only [probeDispatch] at h
    split_ifs at h with hfb
    · obtain ⟨devId, hdev, h⟩ := except_bind_eq_ok.1 h
      cases h
      exact .mainDevice dev devId hfb hdev
    · cases h
      exact .unchanged _ fun _ => rfl
  | formatTable fd size =>
    simp only [probeDispatch, Except.ok.injEq] at h
    split_ifs at h with hfb <;> subst h
    · exact .formatTable fd size hfb
    · exact .unchanged _ fun h => absurd h hfb
  | done =>
    simp only [probeDispatch] at h
    split_ifs at h with hfb
    · rcases hget : env.getDeviceFromDevId with _ | get
      · simp [dmabufFeedbackCheckDone, hget] at h
      rcases hnode : get st.protocols.devId with _ | node <;>
        simp only [dmabufFeedbackCheckDone, hget, hnode, Except.ok.injEq] at h <;> subst h
      · exact .unchanged _ fun _ => rfl
      · exact .done get node hfb hget hnode
    · cases h
      exact .unchanged _ fun _ => rfl

theorem probeDispatch_eq_error {e : Fault} (h : probeDispatch env st ev = .error e) :
    e = .assertFailed ∧ st.feedback ∈ st.live ∧
      ((∃ dev, ev = .mainDevice dev ∧ dev.length ≠ sizeofDevT) ∨
        (ev = .done ∧ env.getDeviceFromDevId = none)) := by
  cases ev with
  | mainDevice dev =>
    simp only [probeDispatch] at h
    split_ifs at h with hfb
    · by_cases hlen : dev.length = sizeofDevT
      · simp [dmabufFeedbackCheckMainDevice, devOfArray, hlen] at h
      · simp only [dmabufFeedbackCheckMainDevice, devOfArray, if_neg hlen] at h
        cases h
        exact ⟨rfl, hfb, .inl ⟨dev, rfl, hlen⟩⟩
  | done =>
    simp only [probeDispatch] at h
    split_ifs at h with hfb
    · rcases hget : env.getDeviceFromDevId with _ | get
      · simp only [dmabufFeedbackCheckDone, hget] at h
        cases h
        exact ⟨rfl, hfb, .inr ⟨rfl, rfl⟩⟩
      · rcases hnode : get st.protocols.devId <;> simp [dmabufFeedbackCheckDone, hget, hnode] at h
  | _ => simp [probeDispatch] at h

@[simp] theorem dispatchEvents_nil (st : Probe) : dispatchEvents env st [] = .ok st := rfl

theorem dispatchEvents_cons (st : Probe) (ev : ProbeEvent) (evs : List ProbeEvent) :
    dispatchEvents env st (ev :: evs) =
      probeDispatch env st ev >>= fun st => dispatchEvents env st evs := rfl

theorem dispatchEvents_preserves (P : Probe → Prop) :
    ∀ {evs : List ProbeEvent} {st st' : Probe},
      (∀ ev ∈ evs, ∀ t t', P t → probeDispatch env t ev = .ok t' → P t') →
      P st → dispatchEvents env st evs = .ok st' → P st'
  | [], _, _, _, hst, h => by cases h; exact hst
  | ev :: _, _, _, hP, hst, h => by
    obtain ⟨t, ht, h⟩ := except_bind_eq_ok.1 ((dispatchEvents_cons _ _ _).symm.trans h)
    exact dispatchEvents_preserves P (fun ev' hev' => hP ev' (List.mem_cons_of_mem _ hev'))
      (hP ev (List.mem_cons_self _ _) _ _ hst ht) h

theorem dispatchEvents_eq_error (P : Probe → Prop) {e : Fault} :
    ∀ {evs : List ProbeEvent} {st : Probe},
      (∀ ev ∈ evs, ∀ t t', P t → probeDispatch env t ev = .ok t' → P t') →
      P st → dispatchEvents env st evs = .error e →
        ∃ ev ∈ evs, ∃ t, P t ∧ probeDispatch env t ev = .error e
  | [], _, _, _, h => by cases h
  | ev :: _, _, hP, hst, h => by
    rcases except_bind_eq_error.1 ((dispatchEvents_cons _ _ _).symm.trans h) with
      herr | ⟨t, ht, h⟩
    · exact ⟨ev, List.mem_cons_self _ _, _, hst, herr⟩
    · obtain ⟨ev', hev', t', hPt', herr⟩ := dispatchEvents_eq_error P
        (fun ev' hev' => hP ev' (List.mem_cons_of_mem _ hev'))
        (hP ev (List.mem_cons_self _ _) _ _ hst ht) h
      exact ⟨ev', List.mem_cons_of_mem _ hev', t', hPt', herr⟩

end Dispatch

/-! # The objects the probe makes -/

namespace Probe

/-- The bookkeeping of a probe whose objects other than the bound proxies are `base` (its
queue, wrapper, registry and feedback): objects are numbered by distinct nonzero
allocations, the live ones are `base` and the bound proxies, no object of `base` is a
bound proxy, and each stored proxy is `NULL` or the last one bound. -/
structure Tracked (base : List Nat) (st : Probe) : Prop where
  live : ∀ o, o ∈ st.live ↔ o ∈ base ∨ o ∈ st.dmaBufProxies ∨ o ∈ st.drmProxies
  nodup : st.live.Nodup
  bounded : ∀ o ∈ st.live, 0 < o ∧ o ≤ st.allocs
  baseUnbound : ∀ o ∈ base, o ∉ st.dmaBufProxies ∧ o ∉ st.drmProxies
  lastDmaBuf : st.protocols.wlDmaBuf = 0 ∨ st.dmaBufProxies.head? = some st.protocols.wlDmaBuf
  lastDrm : st.protocols.wlDrm = 0 ∨ st.drmProxies.head? = some st.protocols.wlDrm

namespace Tracked

variable {env : ProbeEnv} {base : List Nat} {st st' : Probe}

theorem frame (h : Tracked base st) (hlive : st'.live = st.live)
    (hdma : st'.dmaBufProxies = st.dmaBufProxies) (hdrm : st'.drmProxies = st.drmProxies)
    (hwd : st'.protocols.wlDmaBuf = st.protocols.wlDmaBuf)
    (hwr : st'.protocols.wlDrm = st.protocols.wlDrm) (halloc : st.allocs ≤ st'.allocs) :
    Tracked base st' where
  live := by rw [hlive, hdma, hdrm]; exact h.live
  nodup := hlive ▸ h.nodup
  bounded o ho := (h.bounded o (hlive ▸ ho)).imp_right (Nat.le_trans · halloc)
  baseUnbound := by rw [hdma, hdrm]; exact h.baseUnbound
  lastDmaBuf := by rw [hdma, hwd]; exact h.lastDmaBuf
  lastDrm := by rw [hdrm, hwr]; exact h.lastDrm

theorem le_allocs (h : Tracked base st) {o : Nat}
    (ho : o ∈ base ∨ o ∈ st.dmaBufProxies ∨ o ∈ st.drmProxies) : o ≤ st.allocs :=
  (h.bounded o ((h.live o).2 ho)).2

theorem cons_fresh (h : Tracked base st) :
    ((st.allocs + 1) :: st.live).Nodup ∧
      ∀ o ∈ (st.allocs + 1) :: st.live, 0 < o ∧ o ≤ st.allocs + 1 := by
  refine ⟨List.nodup_cons.2 ⟨fun hn => ?_, h.nodup⟩, fun o ho => ?_⟩
  · have := (h.bounded _ hn).2
    omega
  · rcases List.mem_cons.1 ho with rfl | ho
    · omega
    · have := h.bounded o ho
      omega

theorem base_ne_fresh (h : Tracked base st) {o : Nat} (ho : o ∈ base) : o ≠ st.allocs + 1 := by
  have := h.le_allocs (.inl ho)
  omega

theorem bindDmaBuf (h : Tracked base st) : Tracked base (st.bindDmaBuf env) := by
  rw [bindDmaBuf_eq]
  split
  · refine ⟨fun o => ?_, h.cons_fresh.1, h.cons_fresh.2, fun o ho => ?_, .inr rfl, h.lastDrm⟩
    · simp only [List.mem_cons, h.live, or_assoc, or_left_comm]
    · simp only [List.mem_cons, not_or]
      exact ⟨⟨h.base_ne_fresh ho, (h.baseUnbound o ho).1⟩, (h.baseUnbound o ho).2⟩
  · exact ⟨h.live, h.nodup, fun o ho => (h.bounded o ho).imp_right Nat.le_succ_of_le,
      h.baseUnbound, .inl rfl, h.lastDrm⟩

theorem bindDrm (h : Tracked base st) : Tracked base (st.bindDrm env) := by
  rw [bindDrm_eq]
  split
  · refine ⟨fun o => ?_, h.cons_fresh.1, h.cons_fresh.2, fun o ho => ?_, h.lastDmaBuf, .inr rfl⟩
    · simp only [List.mem_cons, h.live, or_assoc, or_left_comm]
    · simp only [List.mem_cons, not_or]
      exact ⟨(h.baseUnbound o ho).1, h.base_ne_fresh ho, (h.baseUnbound o ho).2⟩
  · exact ⟨h.live, h.nodup, fun o ho => (h.bounded o ho).imp_right Nat.le_succ_of_le,
      h.baseUnbound, h.lastDmaBuf, .inl rfl⟩

theorem registryHandleGlobalCheckProtocols (h : Tracked base st) (interface : String)
    (version : Nat) : Tracked base (registryHandleGlobalCheckProtocols env st interface version) := by
  have h₁ : Tracked base (st.checkEglStream interface) := by
    unfold checkEglStream
    split
    exacts [h.frame rfl rfl rfl rfl rfl le_rfl, h]
  have h₂ : Tracked base ((st.checkEglStream interface).checkDmaBuf env interface version) := by
    unfold checkDmaBuf
    split
    · have h₃ : Tracked base { st.checkEglStream interface with protocols.hasDmaBuf := true } :=
        h₁.frame rfl rfl rfl rfl rfl le_rfl
      dsimp only
      split
      exacts [h₃.bindDmaBuf, h₃]
    · exact h₁
  unfold Display.registryHandleGlobalCheckProtocols checkDrm
  split
  exacts [h₂.bindDrm, h₂]

theorem replaceDrmName (h : Tracked base st) (name : String) :
    Tracked base (st.replaceDrmName env name) :=
  h.frame rfl rfl rfl rfl rfl (Nat.le_succ _)

theorem probeDispatch {ev : ProbeEvent} (h : Tracked base st)
    (hd : Display.probeDispatch env st ev = .ok st') : Tracked base st' := by
  cases probeDispatch_outcome hd with
  | global interface version => exact h.registryHandleGlobalCheckProtocols interface version
  | drmDevice _ name => exact h.replaceDrmName name
  | done _ node => exact h.replaceDrmName node
  | mainDevice => exact h.frame rfl rfl rfl rfl rfl le_rfl
  | formatTable => exact h.frame rfl rfl rfl rfl rfl le_rfl
  | unchanged => exact h

theorem dispatchEvents {evs : List ProbeEvent} (h : Tracked base st)
    (hd : Display.dispatchEvents env st evs = .ok st') : Tracked base st' :=
  dispatchEvents_preserves (Tracked base) (fun _ _ _ _ ht hd => ht.probeDispatch hd) h hd

theorem destroy (h : Tracked base st) (hb : base.Nodup) {o : Nat} (ho : o ∈ base) :
    Tracked (base.erase o) (st.destroy o) where
  live x := by
    rw [show (st.destroy o).live = st.live.erase o from rfl, h.nodup.mem_erase_iff, h.live]
    by_cases hx : x = o
    · subst hx
      simp [Probe.destroy, h.baseUnbound x ho, hb.not_mem_erase]
    · simp [Probe.destroy, List.mem_erase_of_ne hx, hx]
  nodup := h.nodup.erase o
  bounded x hx := h.bounded x (List.mem_of_mem_erase hx)
  baseUnbound x hx := h.baseUnbound x (List.mem_of_mem_erase hx)
  lastDmaBuf := h.lastDmaBuf
  lastDrm := h.lastDrm

end Tracked

end Probe

/-!
# Descriptors and device paths

`Grows` is what the registry handler leaves alone or only adds to: the feedback, the
descriptors and the device path stay, and every live object and bound `wl_drm` proxy is kept.
`Probe.Named` says that every device path the probe holds came from a `wl_drm.device` event on
a bound `wl_drm` proxy or is libdrm's render node of some device; `Probe.Unnamed`, that the
probe holds none and its device number is `0` or one a `main_device` event delivered.
-/

namespace Probe

structure Grows (st st' : Probe) : Prop where
  feedback : st'.feedback = st.feedback
  fds : st'.fds = st.fds
  drmName : st'.protocols.drmName = st.protocols.drmName
  devId : st'.protocols.devId = st.protocols.devId
  live : st.live ⊆ st'.live
  drmProxies : st.drmProxies ⊆ st'.drmProxies

namespace Grows

variable {env : ProbeEnv} {st st' st'' : Probe}

theorem refl (st : Probe) : Grows st st :=
  ⟨rfl, rfl, rfl, rfl, List.Subset.refl _, List.Subset.refl _⟩

theorem trans (h₁ : Grows st st') (h₂ : Grows st' st'') : Grows st st'' :=
  ⟨h₂.feedback.trans h₁.feedback, h₂.fds.trans h₁.fds, h₂.drmName.trans h₁.drmName,
    h₂.devId.trans h₁.devId,
    fun _ h => h₂.live (h₁.live h), fun _ h => h₂.drmProxies (h₁.drmProxies h)⟩

theorem bindDmaBuf (st : Probe) : Grows st (st.bindDmaBuf env) := by
  rw [bindDmaBuf_eq]
  split
  exacts [⟨rfl, rfl, rfl, rfl, List.subset_cons_self _ _, List.Subset.refl _⟩,
    ⟨rfl, rfl, rfl, rfl, List.Subset.refl _, List.Subset.refl _⟩]

theorem bindDrm (st : Probe) : Grows st (st.bindDrm env) := by
  rw [bindDrm_eq]
  split
  exacts [⟨rfl, rfl, rfl, rfl, List.subset_cons_self _ _, List.subset_cons_self _ _⟩,
    ⟨rfl, rfl, rfl, rfl, List.Subset.refl _, List.Subset.refl _⟩]

theorem registryHandleGlobalCheckProtocols (st : Probe) (interface : String) (version : Nat) :
    Grows st (registryHandleGlobalCheckProtocols env st interface version) := by
  have h₁ : Grows st (st.checkEglStream interface) := by
    unfold checkEglStream
    split
    exacts [⟨rfl, rfl, rfl, rfl, List.Subset.refl _, List.Subset.refl _⟩, refl st]
  have h₂ (st : Probe) : Grows st (st.checkDmaBuf env interface version) := by
    unfold checkDmaBuf
    split
    · dsimp only
      split
      exacts [(⟨rfl, rfl, rfl, rfl, List.Subset.refl _, List.Subset.refl _⟩ :
          Grows st { st with protocols.hasDmaBuf := true }).trans (bindDmaBuf _),
        ⟨rfl, rfl, rfl, rfl, List.Subset.refl _, List.Subset.refl _⟩]
    · exact refl st
  have h₃ (st : Probe) : Grows st (st.checkDrm env interface version) := by
    unfold checkDrm
    split
    exacts [bindDrm st, refl st]
  exact (h₁.trans (h₂ _)).trans (h₃ _)

end Grows

end Probe

section Descriptors

variable {env : ProbeEnv} {st st' : Probe} {ev : ProbeEvent}

theorem probeDispatch_fds (hd : probeDispatch env st ev = .ok st') :
    st'.feedback = st.feedback ∧ st.live ⊆ st'.live ∧
      st'.fds = st.fds ++ if st.feedback ∈ st.live then ev.tableFd.toList else [] := by
  cases probeDispatch_outcome hd with
  | global interface version =>
    have hg : Probe.Grows st (registryHandleGlobalCheckProtocols env st interface version) :=
      Grows.registryHandleGlobalCheckProtocols st interface version
    exact ⟨hg.feedback, hg.live, by simp [hg.fds, ProbeEvent.tableFd]⟩
  | formatTable fd size hfb => exact ⟨rfl, List.Subset.refl _, by simp [hfb, ProbeEvent.tableFd]⟩
  | unchanged ev hnone =>
    refine ⟨rfl, List.Subset.refl _, ?_⟩
    split
    · simp [hnone ‹_›]
    · simp
  | _ => exact ⟨rfl, List.Subset.refl _, by simp [ProbeEvent.tableFd, wlDrmDevice, replaceDrmName]⟩

theorem dispatchEvents_fds_of_live :
    ∀ {evs : List ProbeEvent} {st st' : Probe}, st.feedback ∈ st.live →
      dispatchEvents env st evs = .ok st' →
        st'.feedback = st.feedback ∧ st'.fds = st.fds ++ evs.filterMap ProbeEvent.tableFd
  | [], _, _, _, h => by cases h; simp
  | ev :: _, _, _, hfb, h => by
    obtain ⟨t, ht, h⟩ := except_bind_eq_ok.1 ((dispatchEvents_cons _ _ _).symm.trans h)
    obtain ⟨hfbt, hlive, hfds⟩ := probeDispatch_fds ht
    obtain ⟨hfb', hfds'⟩ := dispatchEvents_fds_of_live (hfbt ▸ hlive hfb) h
    refine ⟨hfb'.trans hfbt, ?_⟩
    rw [hfds', hfds, if_pos hfb]
    rcases hfd : ev.tableFd <;> simp [hfd]

theorem dispatchEvents_fds_of_zero {base : List Nat} {evs : List ProbeEvent}
    (h : Probe.Tracked base st) (hfb : st.feedback = 0) (hd : dispatchEvents env st evs = .ok st') :
    Probe.Tracked base st' ∧ st'.feedback = 0 ∧ st'.fds = st.fds := by
  refine dispatchEvents_preserves (fun t => Probe.Tracked base t ∧ t.feedback = 0 ∧ t.fds = st.fds)
    (fun _ _ t t' ⟨ht, hfb, hfds⟩ hd => ⟨ht.probeDispatch hd, ?_⟩) ⟨h, hfb, rfl⟩ hd
  obtain ⟨hfb', -, hfds'⟩ := probeDispatch_fds hd
  have h0 : t.feedback ∉ t.live := fun h0 => by
    have := (ht.bounded _ h0).1
    omega
  exact ⟨hfb'.trans hfb, by rw [hfds', if_neg h0, List.append_nil, hfds]⟩

end Descriptors

def Probe.Named (env : ProbeEnv) (evs : List ProbeEvent) (st : Probe) : Prop :=
  ∀ name, st.protocols.drmName = some name →
    (∃ proxy ∈ st.drmProxies, .drmDevice proxy name ∈ evs) ∨
      ∃ getDeviceFromDevId dev, env.getDeviceFromDevId = some getDeviceFromDevId ∧
        getDeviceFromDevId dev = some name

theorem Probe.Named.probeDispatch {env : ProbeEnv} {evs : List ProbeEvent} {st st' : Probe}
    {ev : ProbeEvent} (h : Probe.Named env evs st) (hev : ev ∈ evs)
    (hd : Display.probeDispatch env st ev = .ok st') : Probe.Named env evs st' := by
  cases probeDispatch_outcome hd with
  | global interface version =>
    have hg : Probe.Grows st (registryHandleGlobalCheckProtocols env st interface version) :=
      Grows.registryHandleGlobalCheckProtocols st interface version
    intro name hname
    rcases h name (hg.drmName ▸ hname) with ⟨proxy, hp, hmem⟩ | hsrc
    exacts [.inl ⟨proxy, hg.drmProxies hp, hmem⟩, .inr hsrc]
  | drmDevice proxy name hp =>
    intro n hn
    simp only [wlDrmDevice, replaceDrmName, Option.ite_none_right_eq_some] at hn
    obtain ⟨-, ⟨⟩⟩ := hn
    exact .inl ⟨proxy, hp, hev⟩
  | done get node _ hget hnode =>
    intro n hn
    simp only [replaceDrmName, Option.ite_none_right_eq_some] at hn
    obtain ⟨-, ⟨⟩⟩ := hn
    exact .inr ⟨get, _, hget, hnode⟩
  | mainDevice => exact h
  | formatTable => exact h
  | unchanged => exact h

/-! # The default feedback -/

section DefaultFeedback

variable {env : ProbeEnv} {st st' : Probe}

def Probe.withFeedback (st : Probe) : Probe :=
  { st with live := (st.allocs + 1) :: st.live, allocs := st.allocs + 1, feedback := st.allocs + 1 }

theorem checkDefaultFeedback_eq_ok (h : checkDefaultFeedback env st = .ok st') :
    st' = st ∨ st' = { st with allocs := st.allocs + 1 } ∨
      ∃ t, dispatchEvents env st.withFeedback env.feedbackRoundtrip = .ok t ∧
        st' = t.destroy (st.allocs + 1) := by
  unfold checkDefaultFeedback at h
  split_ifs at h with hg
  · cases hc : env.alloc st.allocs
    · simp only [Probe.create, hc] at h
      exact .inr (.inl (Except.ok.inj h).symm)
    · simp only [Probe.create, hc, if_true, Nat.add_one_ne_zero, if_false] at h
      obtain ⟨t, ht, h⟩ := except_bind_eq_ok.1 h
      exact .inr (.inr ⟨t, ht, (Except.ok.inj h).symm⟩)
  · exact .inl (Except.ok.inj h).symm

theorem checkDefaultFeedback_eq_error {e : Fault} (h : checkDefaultFeedback env st = .error e) :
    env.getDeviceFromDevId.isSome ∧
      dispatchEvents env st.withFeedback env.feedbackRoundtrip = .error e := by
  unfold checkDefaultFeedback at h
  split_ifs at h with hg
  cases hc : env.alloc st.allocs
  · simp [Probe.create, hc] at h
  · simp only [Probe.create, hc, if_true, Nat.add_one_ne_zero, if_false] at h
    rcases except_bind_eq_error.1 h with h | ⟨_, _, h⟩
    exacts [⟨hg.2, h⟩, nomatch h]

theorem Probe.Tracked.withFeedback {base : List Nat} (h : Probe.Tracked base st) :
    Probe.Tracked ((st.allocs + 1) :: base) st.withFeedback where
  live o := by
    simp only [Probe.withFeedback, List.mem_cons, h.live, or_assoc]
  nodup := h.cons_fresh.1
  bounded := h.cons_fresh.2
  baseUnbound o ho := by
    rcases List.mem_cons.1 ho with rfl | ho
    · exact ⟨fun hm => by have := h.le_allocs (.inr (.inl hm)); omega,
        fun hm => by have := h.le_allocs (.inr (.inr hm)); omega⟩
    · exact h.baseUnbound o ho
  lastDmaBuf := h.lastDmaBuf
  lastDrm := h.lastDrm

theorem Probe.Tracked.checkDefaultFeedback {base : List Nat} (h : Probe.Tracked base st)
    (hb : base.Nodup) (hd : Display.checkDefaultFeedback env st = .ok st') :
    Probe.Tracked base st' := by
  rcases checkDefaultFeedback_eq_ok hd with rfl | rfl | ⟨t, ht, rfl⟩
  · exact h
  · exact h.frame rfl rfl rfl rfl rfl (Nat.le_succ _)
  · have hb' : ((st.allocs + 1) :: base).Nodup :=
      List.nodup_cons.2 ⟨fun hm => h.base_ne_fresh hm rfl, hb⟩
    simpa using (h.withFeedback.dispatchEvents ht).destroy hb' (List.mem_cons_self _ _)

end DefaultFeedback

/-! # The whole probe -/

section WholeProbe

variable {env : ProbeEnv} {st : Probe} {r : Bool}

def Probe.connected : Probe := { Probe.empty with live := [3, 2, 1], allocs := 3 }

theorem Probe.tracked_connected : Probe.Tracked [3, 2, 1] Probe.connected :=
  ⟨fun o => by simp [Probe.connected, Probe.empty], by decide, by decide,
    fun _ _ => ⟨List.not_mem_nil _, List.not_mem_nil _⟩, .inl rfl, .inl rfl⟩

theorem getServerProtocolsInfo_eq_ok (h : getServerProtocolsInfo env = .ok (r, st)) :
    (r = false ∧ st.protocols = Probe.empty.protocols ∧ st.live = [] ∧ st.dmaBufProxies = [] ∧
      st.drmProxies = [] ∧ st.feedback = 0 ∧ st.fds = []) ∨
    ∃ st₁ st₂, dispatchEvents env Probe.connected env.roundtrips = .ok st₁ ∧
      checkDefaultFeedback env st₁ = .ok st₂ ∧ r = st₂.protocols.drmName.isSome ∧
      st = (((destroyStoredProxies st₂).destroy 2).destroy 3).destroy 1 := by
  unfold getServerProtocolsInfo at h
  cases h0 : env.alloc 0
  · obtain ⟨rfl, rfl⟩ := by simpa [Probe.create, Probe.empty, h0] using h
    exact .inl ⟨rfl, rfl, rfl, rfl, rfl, rfl, rfl⟩
  cases h1 : env.alloc 1
  · obtain ⟨rfl, rfl⟩ := by simpa [Probe.create, Probe.empty, Probe.destroy, h0, h1] using h
    exact .inl ⟨rfl, rfl, rfl, rfl, rfl, rfl, rfl⟩
  cases h2 : env.alloc 2
  · obtain ⟨rfl, rfl⟩ := by simpa [Probe.create, Probe.empty, Probe.destroy, h0, h1, h2] using h
    exact .inl ⟨rfl, rfl, rfl, rfl, rfl, rfl, rfl⟩
  simp [Probe.create, Probe.empty, h0, h1, h2] at h
  obtain ⟨st₁, h₁, h⟩ := except_bind_eq_ok.1 h
  obtain ⟨st₂, h₂, h⟩ := except_bind_eq_ok.1 h
  cases h
  exact .inr ⟨st₁, st₂, h₁, h₂, rfl, rfl⟩

theorem getServerProtocolsInfo_error_cases {e : Fault} (h : getServerProtocolsInfo env = .error e) :
    dispatchEvents env Probe.connected env.roundtrips = .error e ∨
      ∃ st₁, dispatchEvents env Probe.connected env.roundtrips = .ok st₁ ∧
        checkDefaultFeedback env st₁ = .error e := by
  unfold getServerProtocolsInfo at h
  cases h0 : env.alloc 0
  · simp [Probe.create, Probe.empty, h0] at h
  cases h1 : env.alloc 1
  · simp [Probe.create, Probe.empty, h0, h1] at h
  cases h2 : env.alloc 2
  · simp [Probe.create, Probe.empty, h0, h1, h2] at h
  simp [Probe.create, Probe.empty, h0, h1, h2] at h
  rcases except_bind_eq_error.1 h with h | ⟨st₁, h₁, h⟩
  · exact .inl h
  rcases except_bind_eq_error.1 h with h | ⟨_, _, h⟩
  exacts [.inr ⟨st₁, h₁, h⟩, nomatch h]

@[simp] theorem destroyStoredProxies_protocols (st : Probe) :
    (destroyStoredProxies st).protocols = st.protocols := by
  unfold destroyStoredProxies; dsimp only; split_ifs <;> rfl

@[simp] theorem destroyStoredProxies_dmaBufProxies (st : Probe) :
    (destroyStoredProxies st).dmaBufProxies = st.dmaBufProxies := by
  unfold destroyStoredProxies; dsimp only; split_ifs <;> rfl

@[simp] theorem destroyStoredProxies_drmProxies (st : Probe) :
    (destroyStoredProxies st).drmProxies = st.drmProxies := by
  unfold destroyStoredProxies; dsimp only; split_ifs <;> rfl

@[simp] theorem destroyStoredProxies_feedback (st : Probe) :
    (destroyStoredProxies st).feedback = st.feedback := by
  unfold destroyStoredProxies; dsimp only; split_ifs <;> rfl

@[simp] theorem destroyStoredProxies_fds (st : Probe) :
    (destroyStoredProxies st).fds = st.fds := by
  unfold destroyStoredProxies; dsimp only; split_ifs <;> rfl

theorem destroyStoredProxies_sublist (st : Probe) :
    List.Sublist (destroyStoredProxies st).live st.live := by
  unfold destroyStoredProxies
  dsimp only
  split_ifs
  · exact (List.erase_sublist _ _).trans (List.erase_sublist _ _)
  · exact List.erase_sublist _ _
  · exact List.erase_sublist _ _
  · exact List.Sublist.refl _

theorem live_destroyStoredProxies (hnd : st.live.Nodup) (hpos : 0 ∉ st.live) (o : Nat) :
    o ∈ (destroyStoredProxies st).live ↔
      o ∈ st.live ∧ o ≠ st.protocols.wlDmaBuf ∧ o ≠ st.protocols.wlDrm := by
  have hne : o ∈ st.live → o ≠ 0 := fun ho h0 => hpos (h0 ▸ ho)
  unfold destroyStoredProxies
  dsimp only
  split_ifs with ha hb hb <;>
    simp only [Probe.destroy, (hnd.erase _).mem_erase_iff, hnd.mem_erase_iff] at * <;>
    constructor <;> intro ho <;> simp_all

end WholeProbe

/-!
# What the probe leaves

The probe succeeds exactly when it holds a device path, and every path has a source among the
events it met.  The objects it leaves live are exactly the proxies it bound other than the two
it stores: every `zwp_linux_dmabuf_v1` or `wl_drm` proxy a later announcement replaced is
never destroyed.  It closes no descriptor its handlers receive, and it faults only on the
assert of `dmabuf_feedback_check_main_device`, when the main device's array is not
`sizeof(dev_t)` bytes.
-/

section Results

variable {env : ProbeEnv} {st : Probe} {r : Bool}

def twoDrmCompositor : ProbeEnv where
  alloc _ := true
  roundtrips := [.global "zwp_linux_dmabuf_v1" 4, .global "wl_drm" 2, .global "wl_drm" 2,
    .drmDevice 6 "/dev/dri/card0"]
  feedbackRoundtrip := [.formatTable 30 64, .mainDevice [0x80, 0xe2, 0, 0, 0, 0, 0, 0], .done]
  getDeviceFromDevId := some fun _ => some "/dev/dri/renderD128"

theorem Probe.Named.dispatchEvents {evs evs' : List ProbeEvent} {st st' : Probe}
    (h : Probe.Named env evs st) (hsub : evs' ⊆ evs)
    (hd : Display.dispatchEvents env st evs' = .ok st') : Probe.Named env evs st' :=
  dispatchEvents_preserves (Probe.Named env evs)
    (fun _ hev _ _ ht hd => ht.probeDispatch (hsub hev) hd) h hd

theorem getServerProtocolsInfo_named (h : getServerProtocolsInfo env = .ok (r, st)) :
    r = st.protocols.drmName.isSome ∧
      Probe.Named env (env.roundtrips ++ env.feedbackRoundtrip) st := by
  rcases getServerProtocolsInfo_eq_ok h with ⟨rfl, hprot, -⟩ | ⟨st₁, st₂, h₁, h₂, rfl, rfl⟩
  · exact ⟨by simp [hprot, Probe.empty], fun _ h => by simp [hprot, Probe.empty] at h⟩
  have hn₁ : Probe.Named env (env.roundtrips ++ env.feedbackRoundtrip) st₁ :=
    Probe.Named.dispatchEvents (fun _ h => by simp [Probe.connected, Probe.empty] at h)
      (List.subset_append_left _ _) h₁
  have hn₂ : Probe.Named env (env.roundtrips ++ env.feedbackRoundtrip) st₂ := by
    rcases checkDefaultFeedback_eq_ok h₂ with rfl | rfl | ⟨t, ht, rfl⟩
    · exact hn₁
    · exact hn₁
    · have hw : Probe.Named env (env.roundtrips ++ env.feedbackRoundtrip) st₁.withFeedback := hn₁
      have ht' := hw.dispatchEvents (List.subset_append_right _ _) ht
      exact ht'
  refine ⟨by simp [Probe.destroy], fun name hname => ?_⟩
  simpa [Probe.destroy] using hn₂ name (by simpa [Probe.destroy] using hname)

def Probe.Unnamed (evs : List ProbeEvent) (st : Probe) : Prop :=
  st.protocols.drmName = none ∧ (st.protocols.devId = 0 ∨
    ∃ dev, .mainDevice dev ∈ evs ∧ devOfArray dev = .ok st.protocols.devId)

theorem Probe.Unnamed.probeDispatch {evs : List ProbeEvent} {st st' : Probe} {ev : ProbeEvent}
    (h : Probe.Unnamed evs st) (hdrm : ∀ proxy name, ev ≠ .drmDevice proxy name)
    (hfb : st.feedback ∈ st.live → ev ∈ evs)
    (hres : ∀ get, env.getDeviceFromDevId = some get → ∀ devId, (devId = 0 ∨
      ∃ dev, .mainDevice dev ∈ evs ∧ devOfArray dev = .ok devId) → get devId = none)
    (hd : Display.probeDispatch env st ev = .ok st') : Probe.Unnamed evs st' := by
  cases probeDispatch_outcome hd with
  | global interface version =>
    have hg : Probe.Grows st (registryHandleGlobalCheckProtocols env st interface version) :=
      Grows.registryHandleGlobalCheckProtocols st interface version
    rw [Probe.Unnamed, hg.drmName, hg.devId]
    exact h
  | drmDevice proxy name => exact absurd rfl (hdrm proxy name)
  | mainDevice dev devId hlive hdev => exact ⟨h.1, .inr ⟨dev, hfb hlive, hdev⟩⟩
  | formatTable => exact h
  | done get node _ hget hnode => simp [hres get hget _ h.2] at hnode
  | unchanged => exact h

/-- The probe succeeds exactly when it holds a device path, and every path it can hold
came from `wl_drm.device` on a bound `wl_drm` proxy or is the render node libdrm gives for
a device. -/
theorem getServerProtocolsInfo_finds_device_path (h : getServerProtocolsInfo env = .ok (r, st)) :
    r = true ↔ ∃ name, st.protocols.drmName = some name ∧
      ((∃ proxy ∈ st.drmProxies, .drmDevice proxy name ∈ env.roundtrips ++ env.feedbackRoundtrip) ∨
        ∃ getDeviceFromDevId dev, env.getDeviceFromDevId = some getDeviceFromDevId ∧
          getDeviceFromDevId dev = some name) := by
  obtain ⟨rfl, hn⟩ := getServerProtocolsInfo_named h
  rcases hname : st.protocols.drmName with _ | name
  · simp
  · simpa using hn name hname

theorem twoDrmCompositor_device_path :
    ∃ st, getServerProtocolsInfo twoDrmCompositor = .ok (true, st) ∧
      st.protocols.drmName = some "/dev/dri/renderD128" ∧
      ∃ name, st.protocols.drmName = some name ∧
        ((∃ proxy ∈ st.drmProxies, .drmDevice proxy name ∈
            twoDrmCompositor.roundtrips ++ twoDrmCompositor.feedbackRoundtrip) ∨
          ∃ getDeviceFromDevId dev, twoDrmCompositor.getDeviceFromDevId = some getDeviceFromDevId ∧
            getDeviceFromDevId dev = some name) :=
  ⟨_, rfl, rfl, (@getServerProtocolsInfo_finds_device_path twoDrmCompositor _ true rfl).1 rfl⟩

example : ∃ st, getServerProtocolsInfo
    ⟨fun _ => true, [.global "wl_drm" 2, .drmDevice 4 "/dev/dri/card0"], [], none⟩ =
      .ok (true, st) ∧ st.protocols.drmName = some "/dev/dri/card0" := ⟨_, rfl, rfl⟩

theorem getServerProtocolsInfo_leaves_replaced_proxies
    (h : getServerProtocolsInfo env = .ok (r, st)) :
    (∀ o, o ∈ st.live ↔ (o ∈ st.dmaBufProxies ∨ o ∈ st.drmProxies) ∧
      o ≠ st.protocols.wlDmaBuf ∧ o ≠ st.protocols.wlDrm) ∧
    (st.protocols.wlDmaBuf = 0 ∨ st.dmaBufProxies.head? = some st.protocols.wlDmaBuf) ∧
    (st.protocols.wlDrm = 0 ∨ st.drmProxies.head? = some st.protocols.wlDrm) := by
  rcases getServerProtocolsInfo_eq_ok h with ⟨-, hprot, hlive, hdma, hdrm, -⟩ |
    ⟨st₁, st₂, h₁, h₂, -, rfl⟩
  · simp [hprot, hlive, hdma, hdrm, Probe.empty]
  have ht := (Probe.tracked_connected.dispatchEvents h₁).checkDefaultFeedback (by decide) h₂
  have hnd := ht.nodup
  have hpos : 0 ∉ st₂.live := fun h0 => Nat.lt_irrefl _ (ht.bounded 0 h0).1
  refine ⟨fun o => ?_, by simpa [Probe.destroy] using ht.lastDmaBuf,
    by simpa [Probe.destroy] using ht.lastDrm⟩
  have hnd₀ := hnd.sublist (destroyStoredProxies_sublist st₂)
  simp only [Probe.destroy, destroyStoredProxies_protocols, destroyStoredProxies_dmaBufProxies,
    destroyStoredProxies_drmProxies]
  rw [((hnd₀.erase 2).erase 3).mem_erase_iff, (hnd₀.erase 2).mem_erase_iff, hnd₀.mem_erase_iff,
    live_destroyStoredProxies hnd hpos, ht.live]
  constructor
  · rintro ⟨h1, h3, h2, hm | hm, hne⟩
    · simp only [List.mem_cons, List.mem_singleton, List.not_mem_nil, or_false] at hm
      omega
    · exact ⟨hm, hne⟩
  · rintro ⟨hm, hne⟩
    have hbase : o ∉ [3, 2, 1] := fun hb => hm.elim (ht.baseUnbound o hb).1 (ht.baseUnbound o hb).2
    simp only [List.mem_cons, List.mem_singleton, List.not_mem_nil, or_false, not_or] at hbase
    exact ⟨hbase.2.2, hbase.1, hbase.2.1, .inr hm, hne⟩

theorem twoDrmCompositor_leaks_first_drm :
    ∃ st, getServerProtocolsInfo twoDrmCompositor = .ok (true, st) ∧ st.live = [5] ∧
      st.drmProxies = [6, 5] ∧ st.protocols.wlDrm = 6 ∧
      ((∀ o, o ∈ st.live ↔ (o ∈ st.dmaBufProxies ∨ o ∈ st.drmProxies) ∧
          o ≠ st.protocols.wlDmaBuf ∧ o ≠ st.protocols.wlDrm) ∧
        (st.protocols.wlDmaBuf = 0 ∨ st.dmaBufProxies.head? = some st.protocols.wlDmaBuf) ∧
        (st.protocols.wlDrm = 0 ∨ st.drmProxies.head? = some st.protocols.wlDrm)) :=
  ⟨_, rfl, rfl, rfl, rfl,
    @getServerProtocolsInfo_leaves_replaced_proxies twoDrmCompositor _ true rfl⟩

theorem getServerProtocolsInfo_keeps_table_fds (h : getServerProtocolsInfo env = .ok (r, st)) :
    st.fds = if st.feedback = 0 then [] else env.feedbackRoundtrip.filterMap ProbeEvent.tableFd := by
  rcases getServerProtocolsInfo_eq_ok h with ⟨-, -, -, -, -, hfb, hfds⟩ | ⟨st₁, st₂, h₁, h₂, -, rfl⟩
  · simp [hfb, hfds]
  obtain ⟨-, hfb₁, hfds₁⟩ := dispatchEvents_fds_of_zero Probe.tracked_connected rfl h₁
  simp only [Probe.destroy, destroyStoredProxies_fds, destroyStoredProxies_feedback]
  rcases checkDefaultFeedback_eq_ok h₂ with rfl | rfl | ⟨t, ht, rfl⟩
  · simp [hfb₁, hfds₁, Probe.connected, Probe.empty]
  · simp [hfb₁, hfds₁, Probe.connected, Probe.empty]
  · obtain ⟨hfbt, hfdst⟩ := dispatchEvents_fds_of_live (List.mem_cons_self _ _) ht
    simp [Probe.destroy, hfbt, hfdst, Probe.withFeedback, hfds₁, Probe.connected, Probe.empty]

theorem twoDrmCompositor_keeps_table_fd :
    ∃ st, getServerProtocolsInfo twoDrmCompositor = .ok (true, st) ∧ st.fds = [30] ∧
      st.fds = if st.feedback = 0 then [] else
        twoDrmCompositor.feedbackRoundtrip.filterMap ProbeEvent.tableFd :=
  ⟨_, rfl, rfl, @getServerProtocolsInfo_keeps_table_fds twoDrmCompositor _ true rfl⟩

def shortMainDeviceCompositor : ProbeEnv :=
  { twoDrmCompositor with feedbackRoundtrip := [.mainDevice [0x80, 0xe2, 0, 0], .done] }

theorem getServerProtocolsInfo_faults_on_main_device {e : Fault}
    (h : getServerProtocolsInfo env = .error e) :
    e = .assertFailed ∧ ∃ dev, .mainDevice dev ∈ env.feedbackRoundtrip ∧ dev.length ≠ sizeofDevT := by
  rcases getServerProtocolsInfo_error_cases h with h₁ | ⟨st₁, -, h₂⟩
  · obtain ⟨ev, -, t, ⟨ht, hfb⟩, herr⟩ := dispatchEvents_eq_error
      (fun t => Probe.Tracked [3, 2, 1] t ∧ t.feedback = 0)
      (fun _ _ t t' ⟨ht, hfb⟩ hd => ⟨ht.probeDispatch hd, (probeDispatch_fds hd).1.trans hfb⟩)
      ⟨Probe.tracked_connected, rfl⟩ h₁
    obtain ⟨-, hlive, -⟩ := probeDispatch_eq_error herr
    exact absurd (ht.bounded _ hlive).1 (by omega)
  · obtain ⟨hsome, hd⟩ := checkDefaultFeedback_eq_error h₂
    obtain ⟨ev, hev, t, -, herr⟩ :=
      dispatchEvents_eq_error (fun _ => True) (fun _ _ _ _ _ _ => trivial) trivial hd
    obtain ⟨rfl, -, ⟨dev, rfl, hlen⟩ | ⟨-, hnone⟩⟩ := probeDispatch_eq_error herr
    · exact ⟨rfl, dev, hev, hlen⟩
    · simp [hnone] at hsome

theorem shortMainDeviceCompositor_aborts :
    getServerProtocolsInfo shortMainDeviceCompositor = .error .assertFailed ∧
      ∃ dev, .mainDevice dev ∈ shortMainDeviceCompositor.feedbackRoundtrip ∧
        dev.length ≠ sizeofDevT :=
  ⟨rfl, (@getServerProtocolsInfo_faults_on_main_device shortMainDeviceCompositor _ rfl).2⟩

end Results

end Display
end EglWayland
