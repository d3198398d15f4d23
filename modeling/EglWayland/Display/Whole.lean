import EglWayland.Display.Lifecycle
import EglWayland.Display.DmaBuf
import EglWayland.Display.SyncSupport

/-!
# The whole life of a display

The modules before this one follow a display's life in slices: `Display.Hooks` and
`Display.Lifecycle` count its initializations, `Display.Globals` and `Display.SyncSupport`
bind its globals, and `Display.DmaBuf` fills and releases its format set and default feedback.
Here the slices are put back together.  `wlEglInitializeHook` runs the sync probe, binds the
globals over two round trips and hands the `modifier` and feedback events of the second one
to their listeners.  The `terminateDisplay` that takes the count to zero releases the format
set and feedback with `wlEglDestroyFormatSet` and `wlEglDestroyFeedback` and clears the
protocol objects.

Each slice is what the whole hooks do to their part, and each is proved so below.
- The counts and the log are those of the counting hooks, run with the compositor outcome that
  the protocol part computes.
- The globals are those of `initializeProtocols`.
- The second round trip is the globals' round trip and a run of `runDmaBuf`, side by side.

On an EGLStream compositor the whole hooks never fault and keep the balance law of
`Display.Lifecycle`.  On a compositor that offers dma-buf, the format set a termination
released is read by the next initialization's first `modifier` event.
-/

namespace EglWayland
namespace Display

open EglState

/-!
# The display and what an initialization meets

The second round trip carries announcements, `modifier` events of the dma-buf object and events
of the default feedback.  `dmabuf_listener` is installed (`dmaBufListening`) when the first
round trip bound a dma-buf object and no EGLStream display, and `get_default_feedback` is sent
(`asksFeedback`) when it is of version `4` or more.  Two kinds of compositor are named:
`InitEnv.OnEglStream` announces `wl_eglstream_display` and lets every step succeed, and
`InitEnv.OffersDmaBuf` announces `zwp_linux_dmabuf_v1` at version `3` or more and no EGLStream
display.
-/

/-- One display with what its hooks touch in the process. -/
structure DisplayWorld where
  egl : EglState
  globals : DisplayGlobals
  dmaBuf : DmaBufDisplay
  proc : Proc
  sync : SyncResources

def DisplayWorld.onDmaBuf (w : DisplayWorld) (e : DmaBufEvent) : Except Fault DisplayWorld :=
  (dmaBufStep w.proc w.dmaBuf e).map fun pd => { w with proc := pd.1, dmaBuf := pd.2 }

def DisplayGlobals.clearProxies (g : DisplayGlobals) : DisplayGlobals :=
  { g with wlStreamDpy := 0, wlStreamCtl := 0, wpPresentation := 0, wlDrmSyncobj := 0,
           wlDmaBuf := 0 }

inductive RoundtripEvent where
  | global (a : RegistryGlobal)
  | modifier (format modHi modLo : UInt32) (okFormats okModifiers : Bool)
  | feedback (e : FeedbackEvent) (env : FeedbackEnv)

namespace RoundtripEvent

def global? : RoundtripEvent → Option RegistryGlobal
  | .global a => some a
  | _ => none

def dmaBuf? (modifiers feedback : Bool) : RoundtripEvent → Option DmaBufEvent
  | .global _ => none
  | .modifier format modHi modLo okFormats okModifiers =>
      if modifiers then some (.modifier format modHi modLo okFormats okModifiers) else none
  | .feedback e env => if feedback then some (.feedback e env) else none

end RoundtripEvent

/-- What one initialization meets past `wlInternalInitialize`: the driver's
`EGL_EXTENSIONS` (`none` for `NULL`), the answers of the sync probe, and those of the
protocol part, whose second round trip carries every kind of event. -/
structure InitEnv where
  devExts : Option (List String)
  sync : SyncEnv
  alloc : Nat → Bool
  queueOk : Bool
  registryListenerRet : Int
  firstRoundtrip : List RegistryGlobal
  firstRet : Int
  streamListenerRet : Int
  dmaBufListenerRet : Int
  feedbackListenerRet : Int
  secondRoundtrip : List RoundtripEvent
  secondRet : Int

def InitEnv.protocol (env : InitEnv) : ProtocolEnv :=
  ⟨env.alloc, env.queueOk, env.registryListenerRet, env.firstRoundtrip, env.firstRet,
    env.streamListenerRet, env.dmaBufListenerRet, env.feedbackListenerRet,
    env.secondRoundtrip.filterMap RoundtripEvent.global?, env.secondRet⟩

@[simp] theorem InitEnv.protocol_alloc (env : InitEnv) : env.protocol.alloc = env.alloc := rfl

@[simp] theorem InitEnv.protocol_queueOk (env : InitEnv) : env.protocol.queueOk = env.queueOk := rfl

@[simp] theorem InitEnv.protocol_dmaBufListenerRet (env : InitEnv) :
    env.protocol.dmaBufListenerRet = env.dmaBufListenerRet := rfl

def dmaBufListening (env : ProtocolEnv) (g : DisplayGlobals) : Bool :=
  g.wlStreamDpy = 0 && g.wlDmaBuf ≠ 0 && env.dmaBufListenerRet = 0

def asksFeedback (env : ProtocolEnv) (g : DisplayGlobals) : Bool :=
  dmaBufListening env g && 4 ≤ g.dmaBufProtocolVersion

structure InitEnv.OffersDmaBuf (env : InitEnv) : Prop where
  allocs : ∀ n, env.alloc n = true
  queue : env.queueOk = true
  registry : env.registryListenerRet = 0
  first : 0 ≤ env.firstRet
  noStream : ∀ x ∈ env.firstRoundtrip, x.interface ≠ "wl_eglstream_display"
  dmaBuf : ∃ x ∈ env.firstRoundtrip, x.interface = "zwp_linux_dmabuf_v1" ∧ 3 ≤ x.version
  dmaBufListener : env.dmaBufListenerRet = 0
  feedbackListener : 0 ≤ env.feedbackListenerRet

namespace Whole

/-- One event of the second round trip, handed to the listener of its object; an event of an
object without a listener is dropped. -/
def roundtripStep (alloc : Nat → Bool) (modifiers feedback : Bool) (w : DisplayWorld) :
    RoundtripEvent → Except Fault DisplayWorld
  | .global a => .ok { w with globals := registryHandleGlobal alloc w.globals a }
  | .modifier format modHi modLo okFormats okModifiers =>
      if modifiers then w.onDmaBuf (.modifier format modHi modLo okFormats okModifiers)
      else .ok w
  | .feedback e env => if feedback then w.onDmaBuf (.feedback e env) else .ok w

def dispatchRoundtrip (alloc : Nat → Bool) (modifiers feedback : Bool) :
    DisplayWorld → List RoundtripEvent → Except Fault DisplayWorld
  | w, [] => .ok w
  | w, ev :: rest => do
      let w ← roundtripStep alloc modifiers feedback w ev
      dispatchRoundtrip alloc modifiers feedback w rest

def initializeProtocols (env : InitEnv) (w : DisplayWorld) : Except Fault (DisplayWorld × Bool) :=
  if env.queueOk = false then .ok (w, false)
  else
    let (g, wrapper) := w.globals.create env.alloc
    if wrapper = 0 then .error .nullDeref
    else
      let (g, registry) := g.create env.alloc
      if registry = 0 then .error .nullDeref
      else
        let (g, ret) := registryRoundtrip env.protocol g
        if ret < 0 then .ok ({ w with globals := g }, false)
        else
          let (g', ret) := listenForFormats env.protocol g
          let attached := if asksFeedback env.protocol g then
              w.onDmaBuf (.getDefaultFeedback g'.wlDmaBufFeedback)
            else .ok w
          attached >>= fun w =>
            let w := { w with globals := g' }
            if ret < 0 ∨ (g'.wlStreamDpy = 0 ∧ g'.wlDmaBuf = 0) then .ok (w, false)
            else
              (dispatchRoundtrip env.alloc (dmaBufListening env.protocol g)
                (asksFeedback env.protocol g && g'.wlDmaBufFeedback ≠ 0 &&
                  env.feedbackListenerRet = 0) w env.secondRoundtrip).map
                fun w => (w, decide (0 ≤ env.secondRet))

def terminateDisplay (driver : Driver) (w : DisplayWorld) (a : Nat) (globalTeardown : Bool) :
    Except Fault (DisplayWorld × Bool) := do
  let d ← w.egl.readDisplay a
  if d.initCount = 0 then pure (w, true)
  else if 1 < d.initCount ∧ globalTeardown = false then
    pure ({ w with egl := w.egl.setDisplay a { d with initCount := d.initCount - 1 } }, true)
  else
    let (s, ok) ← wlInternalTerminate driver w.egl d.devDpy
    if ok = false ∧ globalTeardown = false then pure ({ w with egl := s }, false)
    else
      let s := (s.setDisplay a { d with initCount := 0 }).log (.destroyAllSurfaces a)
      if globalTeardown = false ∨ d.ownNativeDpy then
        let (p, dmaBuf) ← releaseDmaBuf w.proc w.dmaBuf
        pure ({ w with egl := s.log (.destroyDisplayObjects a), proc := p, dmaBuf := dmaBuf,
                       globals := w.globals.clearProxies }, true)
      else pure ({ w with egl := s }, true)

def initializeBody (driver : Driver) (env : InitEnv) (w : DisplayWorld) (a : Nat) :
    Except Fault (DisplayWorld × Bool × Option (Int × Int)) := do
  let d ← w.egl.readDisplay a
  if 0 < d.initCount then
    let dd ← w.egl.readDevDpy d.devDpy
    let s := if d.useInitRefCount then w.egl.setDisplay a { d with initCount := d.initCount + 1 }
      else w.egl
    pure ({ w with egl := s }, true, some (dd.major, dd.minor))
  else
    let (s, ok) ← wlInternalInitialize driver w.egl d.devDpy
    if ok then
      let (g, sync) := initializeSyncSupport env.devExts env.sync d.drmFd w.globals w.sync
      let (w, compositorOk) ← initializeProtocols env
        { w with egl := s.setDisplay a { d with initCount := 1 }, globals := g, sync := sync }
      if compositorOk then
        let dd ← w.egl.readDevDpy d.devDpy
        pure ({ w with dmaBuf.defaultFeedback.unprocessedFeedback := false }, true,
          some (dd.major, dd.minor))
      else
        let (w, _) ← terminateDisplay driver w a false
        pure ({ w with egl := w.egl.setError eglBadAlloc }, false, none)
    else pure ({ w with egl := s }, false, none)

def runHook {β : Type} (fallback : β) (body : DisplayWorld → Nat → Except Fault (DisplayWorld × β))
    (w : DisplayWorld) (dpy : Nat) : Except Fault (DisplayWorld × β) := do
  let (s, display) ← wlEglAcquireDisplay w.egl dpy
  if display = 0 then pure ({ w with egl := s }, fallback)
  else
    let (w, r) ← body { w with egl := s } display
    let s ← wlEglReleaseDisplay w.egl display
    pure ({ w with egl := s }, r)

def wlEglInitializeHook (driver : Driver) (env : InitEnv) (w : DisplayWorld) (dpy : Nat) :
    Except Fault (DisplayWorld × Bool × Option (Int × Int)) :=
  runHook (false, none) (initializeBody driver env) w dpy

def wlEglTerminateHook (driver : Driver) (w : DisplayWorld) (dpy : Nat) :
    Except Fault (DisplayWorld × Bool) :=
  runHook false (fun w a => terminateDisplay driver w a false) w dpy

inductive Call where
  | initializeHook (env : InitEnv)
  | terminateHook

def Call.body (driver : Driver) : Call → DisplayWorld → Nat → Except Fault (DisplayWorld × Bool)
  | .initializeHook env, w, a => (initializeBody driver env w a).map fun r => (r.1, r.2.1)
  | .terminateHook, w, a => terminateDisplay driver w a false

def callHooks (driver : Driver) (dpy : Nat) : DisplayWorld → List Call → Except Fault DisplayWorld
  | w, [] => .ok w
  | w, c :: rest => do
      let (w, _) ← runHook false (c.body driver) w dpy
      callHooks driver dpy w rest

/-!
# The slices are what the whole hooks do to their parts

Each section of the whole hooks that returns is the slice's section on the part the slice
models: the protocol part binds the globals as `initializeProtocols` does, and the termination
and initialization count and log as the counting ones do, the latter with the outcome the
protocol part computed.  A counting hook abstracts a call (`Call.Abstracts`) when it is the
same hook.
-/

theorem onDmaBuf_eq_ok {w w' : DisplayWorld} {e : DmaBufEvent} :
    w.onDmaBuf e = .ok w' ↔
      ∃ p d, dmaBufStep w.proc w.dmaBuf e = .ok (p, d) ∧ w' = { w with proc := p, dmaBuf := d } := by
  rw [DisplayWorld.onDmaBuf, except_map_eq_ok]
  constructor
  · rintro ⟨⟨p, d⟩, h, rfl⟩
    exact ⟨p, d, h, rfl⟩
  · rintro ⟨p, d, h, rfl⟩
    exact ⟨(p, d), h, rfl⟩

/-- The second round trip is the globals' round trip and a run of the dma-buf events that
reach a listener, side by side: neither part reads the other. -/
theorem dispatchRoundtrip_eq (alloc : Nat → Bool) (modifiers feedback : Bool) :
    ∀ (evs : List RoundtripEvent) (w : DisplayWorld),
      dispatchRoundtrip alloc modifiers feedback w evs =
        (runDmaBuf w.proc w.dmaBuf (evs.filterMap (RoundtripEvent.dmaBuf? modifiers feedback))).map
          fun pd => { w with
            globals := dispatchGlobals alloc w.globals (evs.filterMap RoundtripEvent.global?),
            proc := pd.1, dmaBuf := pd.2 }
  | [], w => rfl
  | ev :: rest, w => by
      have ih := dispatchRoundtrip_eq alloc modifiers feedback rest
      -- an event that reaches no listener of the dma-buf part
      have hskip : ∀ w₁ : DisplayWorld, w₁.proc = w.proc → w₁.dmaBuf = w.dmaBuf →
          dispatchRoundtrip alloc modifiers feedback w₁ rest =
            (runDmaBuf w.proc w.dmaBuf (rest.filterMap (RoundtripEvent.dmaBuf? modifiers feedback))).map
              fun pd => { w₁ with
                globals := dispatchGlobals alloc w₁.globals (rest.filterMap RoundtripEvent.global?),
                proc := pd.1, dmaBuf := pd.2 } := by
        intro w₁ hp hd
        rw [ih, hp, hd]
      -- an event that reaches a listener of the dma-buf part
      have hstep : ∀ e : DmaBufEvent,
          (w.onDmaBuf e >>= fun w => dispatchRoundtrip alloc modifiers feedback w rest) =
            (runDmaBuf w.proc w.dmaBuf
              (e :: rest.filterMap (RoundtripEvent.dmaBuf? modifiers feedback))).map fun pd =>
                { w with
                  globals := dispatchGlobals alloc w.globals (rest.filterMap RoundtripEvent.global?),
                  proc := pd.1, dmaBuf := pd.2 } := by
        intro e
        simp only [DisplayWorld.onDmaBuf, runDmaBuf]
        cases dmaBufStep w.proc w.dmaBuf e with
        | error err => rfl
        | ok pd => exact ih _
      cases ev with
      | global a => exact hskip _ rfl rfl
      | modifier format modHi modLo okFormats okModifiers =>
          cases modifiers
          · exact hskip w rfl rfl
          · exact hstep _
      | feedback e env =>
          cases feedback
          · exact hskip w rfl rfl
          · exact hstep _

theorem dispatchRoundtrip_refines {alloc : Nat → Bool} {modifiers feedback : Bool}
    {evs : List RoundtripEvent} {w w' : DisplayWorld}
    (h : dispatchRoundtrip alloc modifiers feedback w evs = .ok w') :
    w'.globals = dispatchGlobals alloc w.globals (evs.filterMap RoundtripEvent.global?) ∧
      runDmaBuf w.proc w.dmaBuf (evs.filterMap (RoundtripEvent.dmaBuf? modifiers feedback)) =
        .ok (w'.proc, w'.dmaBuf) ∧ w'.egl = w.egl ∧ w'.sync = w.sync := by
  rw [dispatchRoundtrip_eq, except_map_eq_ok] at h
  obtain ⟨⟨p, d⟩, hrun, rfl⟩ := h
  exact ⟨rfl, hrun, rfl, rfl⟩

theorem initializeProtocols_refines {env : InitEnv} {w w' : DisplayWorld} {ok : Bool}
    (h : initializeProtocols env w = .ok (w', ok)) :
    Display.initializeProtocols env.protocol w.globals = .ok (w'.globals, ok) ∧
      w'.egl = w.egl ∧ w'.sync = w.sync := by
  unfold initializeProtocols at h
  unfold Display.initializeProtocols
  simp only [InitEnv.protocol_alloc, InitEnv.protocol_queueOk]
  by_cases hq : env.queueOk = false
  · rw [if_pos hq] at h ⊢
    cases h
    exact ⟨rfl, rfl, rfl⟩
  rw [if_neg hq] at h ⊢
  generalize w.globals.create env.alloc = c₁ at h ⊢
  obtain ⟨g₁, wrapper⟩ := c₁
  dsimp only at h ⊢
  by_cases hw : wrapper = 0
  · rw [if_pos hw] at h
    cases h
  rw [if_neg hw] at h ⊢
  generalize g₁.create env.alloc = c₂ at h ⊢
  obtain ⟨g₂, registry⟩ := c₂
  dsimp only at h ⊢
  by_cases hr : registry = 0
  · rw [if_pos hr] at h
    cases h
  rw [if_neg hr] at h ⊢
  generalize registryRoundtrip env.protocol g₂ = c₃ at h ⊢
  obtain ⟨g₃, ret₃⟩ := c₃
  dsimp only at h ⊢
  by_cases hret : ret₃ < 0
  · rw [if_pos hret] at h ⊢
    cases h
    exact ⟨rfl, rfl, rfl⟩
  rw [if_neg hret] at h ⊢
  generalize listenForFormats env.protocol g₃ = c₄ at h ⊢
  obtain ⟨g₄, ret₄⟩ := c₄
  dsimp only at h ⊢
  -- the default feedback changes only the dma-buf part
  obtain ⟨w₁, hfb, h⟩ := except_bind_eq_ok.1 h
  have hw₁ : w₁.egl = w.egl ∧ w₁.sync = w.sync := by
    split_ifs at hfb
    · obtain ⟨p, d, -, rfl⟩ := onDmaBuf_eq_ok.1 hfb
      exact ⟨rfl, rfl⟩
    · cases hfb
      exact ⟨rfl, rfl⟩
  split_ifs at h ⊢
  · cases h
    exact ⟨rfl, hw₁⟩
  · obtain ⟨w₂, hrt, h⟩ := except_map_eq_ok.1 h
    cases h
    obtain ⟨hg, -, he, hs⟩ := dispatchRoundtrip_refines hrt
    exact ⟨by rw [hg]; rfl, he.trans hw₁.1, hs.trans hw₁.2⟩

theorem terminateDisplay_cases (driver : Driver) (w : DisplayWorld) (a : Nat) (g : Bool) :
    terminateDisplay driver w a g =
        (Display.terminateDisplay driver w.egl a g).map (fun r => ({ w with egl := r.1 }, r.2)) ∨
      ∃ s ok, Display.terminateDisplay driver w.egl a g = .ok (s, ok) ∧
        terminateDisplay driver w a g = (releaseDmaBuf w.proc w.dmaBuf).map fun pd =>
          ({ w with egl := s, proc := pd.1, dmaBuf := pd.2, globals := w.globals.clearProxies }, ok) := by
  simp only [terminateDisplay, Display.terminateDisplay]
  cases w.egl.readDisplay a with
  | error e => exact .inl rfl
  | ok d =>
    simp only [except_ok_bind]
    by_cases h0 : d.initCount = 0
    · simp only [if_pos h0]
      exact .inl rfl
    by_cases h1 : 1 < d.initCount ∧ g = false
    · simp only [if_neg h0, if_pos h1]
      exact .inl rfl
    simp only [if_neg h0, if_neg h1]
    cases wlInternalTerminate driver w.egl d.devDpy with
    | error e => exact .inl rfl
    | ok r =>
      obtain ⟨s, ok⟩ := r
      simp only [except_ok_bind]
      by_cases hf : ok = false ∧ g = false
      · simp only [if_pos hf]
        exact .inl rfl
      by_cases hrel : g = false ∨ d.ownNativeDpy = true
      · simp only [if_neg hf, if_pos hrel]
        exact .inr ⟨_, _, rfl, rfl⟩
      · simp only [if_neg hf, if_neg hrel]
        exact .inl rfl

theorem terminateDisplay_refines {driver : Driver} {w w' : DisplayWorld} {a : Nat} {g ok : Bool}
    (h : terminateDisplay driver w a g = .ok (w', ok)) :
    Display.terminateDisplay driver w.egl a g = .ok (w'.egl, ok) := by
  rcases terminateDisplay_cases driver w a g with he | ⟨s, ok', hs, he⟩
  · obtain ⟨⟨s, ok'⟩, hs, h⟩ := except_map_eq_ok.1 (he ▸ h)
    cases h
    exact hs
  · obtain ⟨_, -, h⟩ := except_map_eq_ok.1 (he ▸ h)
    cases h
    exact hs

theorem initializeBody_refines {driver : Driver} {env : InitEnv} {w w' : DisplayWorld} {a : Nat}
    {r : Bool × Option (Int × Int)} (h : initializeBody driver env w a = .ok (w', r)) :
    ∃ compositorOk, Display.initializeBody driver compositorOk w.egl a = .ok (w'.egl, r) := by
  obtain ⟨d, hread, h⟩ := except_bind_eq_ok.1 h
  by_cases hpos : 0 < d.initCount
  · rw [if_pos hpos] at h
    obtain ⟨dd, hdd, h⟩ := except_bind_eq_ok.1 h
    cases h
    exact ⟨true, by simp only [Display.initializeBody, hread, hdd, except_ok_bind, if_pos hpos]; rfl⟩
  rw [if_neg hpos] at h
  obtain ⟨⟨s, ok⟩, hinit, h⟩ := except_bind_eq_ok.1 h
  dsimp only at h
  cases ok
  · rw [if_neg Bool.false_ne_true] at h
    cases h
    exact ⟨true, by simp only [Display.initializeBody, hread, hinit, except_ok_bind, if_neg hpos]; rfl⟩
  rw [if_pos rfl] at h
  obtain ⟨⟨w₁, compositorOk⟩, hprot, h⟩ := except_bind_eq_ok.1 h
  obtain ⟨-, he, -⟩ := initializeProtocols_refines hprot
  dsimp only at he
  refine ⟨compositorOk, ?_⟩
  simp only [Display.initializeBody, hread, hinit, except_ok_bind, if_neg hpos, if_true]
  dsimp only at h
  cases compositorOk
  · rw [if_neg Bool.false_ne_true] at h
    obtain ⟨⟨w₂, ok₂⟩, hterm, h⟩ := except_bind_eq_ok.1 h
    cases h
    rw [if_neg Bool.false_ne_true, ← he, terminateDisplay_refines hterm]
    rfl
  · rw [if_pos rfl] at h
    obtain ⟨dd, hdd, h⟩ := except_bind_eq_ok.1 h
    cases h
    rw [if_pos rfl, ← he, hdd]
    rfl

theorem runHook_refines {β γ : Type} {fallback : β}
    {body : DisplayWorld → Nat → Except Fault (DisplayWorld × β)}
    {body' : γ → EglState → Nat → Except Fault (EglState × β)} (c₀ : γ)
    (hbody : ∀ w a w' r, body w a = .ok (w', r) → ∃ c, body' c w.egl a = .ok (w'.egl, r))
    {w w' : DisplayWorld} {dpy : Nat} {r : β} (h : runHook fallback body w dpy = .ok (w', r)) :
    ∃ c, Display.runHook fallback (body' c) w.egl dpy = .ok (w'.egl, r) := by
  obtain ⟨⟨s, display⟩, hacq, h⟩ := except_bind_eq_ok.1 h
  simp only [Display.runHook, hacq, except_ok_bind]
  dsimp only at h ⊢
  split_ifs at h ⊢
  · cases h
    exact ⟨c₀, rfl⟩
  obtain ⟨⟨w₁, r₁⟩, hb, h⟩ := except_bind_eq_ok.1 h
  obtain ⟨s₁, hrel, h⟩ := except_bind_eq_ok.1 h
  cases h
  obtain ⟨c, hc⟩ := hbody _ _ _ _ hb
  exact ⟨c, by simp only [hc, except_ok_bind, hrel]; rfl⟩

def Call.hook : Call → Hook
  | .initializeHook _ => .initializeHook true
  | .terminateHook => .terminateHook

def Call.Abstracts : Call → Hook → Prop
  | .initializeHook _, .initializeHook _ => True
  | .terminateHook, .terminateHook => True
  | _, _ => False

/-- Every run of the whole hooks is a run of the counting hooks on its heap and directory. -/
theorem callHooks_refines {driver : Driver} {dpy : Nat} :
    ∀ (calls : List Call) (w w' : DisplayWorld), callHooks driver dpy w calls = .ok w' →
      ∃ hooks, List.Forall₂ Call.Abstracts calls hooks ∧
        Display.callHooks driver dpy w.egl hooks = .ok w'.egl
  | [], w, w', h => by
      cases h
      exact ⟨[], .nil, rfl⟩
  | c :: rest, w, w', h => by
      obtain ⟨⟨w₁, r⟩, hrun, h⟩ := except_bind_eq_ok.1 h
      obtain ⟨hooks, hall, hcall⟩ := callHooks_refines rest w₁ w' h
      -- the call's own hook, with the outcome its compositor gave
      obtain ⟨hk, hab, hk_run⟩ : ∃ hk, Call.Abstracts c hk ∧
          Display.runHook false (Hook.body driver hk) w.egl dpy = .ok (w₁.egl, r) := by
        cases c with
        | initializeHook env =>
            obtain ⟨ok, hok⟩ := @runHook_refines _ _ _ (Call.body driver (.initializeHook env))
              (fun ok => Hook.body driver (.initializeHook ok)) true (fun w a w' r hb => by
                obtain ⟨⟨w₂, r₂⟩, hb', hb⟩ := except_map_eq_ok.1 hb
                cases hb
                obtain ⟨ok, hok⟩ := initializeBody_refines hb'
                exact ⟨ok, by simp only [Hook.body, hok]; rfl⟩) _ _ _ _ hrun
            exact ⟨.initializeHook ok, trivial, hok⟩
        | terminateHook =>
            obtain ⟨-, hok⟩ := @runHook_refines _ _ _ _
              (fun (_ : Unit) => Hook.body driver .terminateHook) ()
              (fun w a w' r hb => ⟨(), terminateDisplay_refines hb⟩) _ _ _ _ hrun
            exact ⟨.terminateHook, trivial, hok⟩
      exact ⟨hk :: hooks, .cons hab hall, by simp only [Display.callHooks, hk_run, except_ok_bind, hcall]⟩

/-!
# EGLStream compositors

On an EGLStream compositor the protocol part goes on and leaves the format set, feedback, heap
and directory alone.  On an inert display each whole section, and so each hook and each run,
returns whenever the counting one does, with the same heap and directory, and the display stays
inert.
-/

def trackedHeldWorld : DisplayWorld := ⟨trackedHeld, .zero, .zero, ⟨[], [], []⟩, ⟨[], [], []⟩⟩

theorem dispatchGlobals_induction {alloc : Nat → Bool} (P : DisplayGlobals → Prop)
    (Q : RegistryGlobal → Prop) :
    ∀ (as : List RegistryGlobal) (g : DisplayGlobals),
      (∀ g, ∀ x ∈ as, P g ∨ Q x → P (registryHandleGlobal alloc g x)) →
      (P g ∨ ∃ x ∈ as, Q x) → P (dispatchGlobals alloc g as)
  | [], _, _, h => h.resolve_right (by simp)
  | x :: rest, g, hstep, h => by
      rw [dispatchGlobals_cons]
      refine dispatchGlobals_induction P Q rest _
        (fun g y hy => hstep g y (List.mem_cons_of_mem x hy)) ?_
      by_cases hx : Q x
      · exact .inl (hstep g x (List.mem_cons_self x rest) (.inr hx))
      · rcases h with h | ⟨y, hy, hQ⟩
        · exact .inl (hstep g x (List.mem_cons_self x rest) (.inl h))
        · rcases List.mem_cons.1 hy with rfl | hy
          · exact absurd hQ hx
          · exact .inr ⟨y, hy, hQ⟩

theorem registryHandleGlobal_streamDpy_of_ne {alloc : Nat → Bool} {g : DisplayGlobals}
    {x : RegistryGlobal} (hx : x.interface ≠ "wl_eglstream_display") :
    (registryHandleGlobal alloc g x).wlStreamDpy = g.wlStreamDpy := by
  unfold registryHandleGlobal
  split_ifs with hs
  · exact absurd hs hx
  all_goals simp [DisplayGlobals.bind_eq]

theorem registryHandleGlobal_wlDmaBuf {alloc : Nat → Bool} (halloc : ∀ n, alloc n = true)
    {g : DisplayGlobals} {x : RegistryGlobal}
    (h : g.wlDmaBuf ≠ 0 ∨ x.interface = "zwp_linux_dmabuf_v1" ∧ 3 ≤ x.version) :
    (registryHandleGlobal alloc g x).wlDmaBuf ≠ 0 := by
  by_cases hx : x.interface = "zwp_linux_dmabuf_v1"
  · rw [registryHandleGlobal_of_dmaBuf hx]
    by_cases hv : 3 ≤ x.version
    · simp [hv, DisplayGlobals.bind_eq, halloc]
    · simpa [hv] using h.resolve_right fun h' => hv h'.2
  · rw [(registryHandleGlobal_of_ne hx alloc g).1]
    exact h.resolve_right fun h' => hx h'.1

theorem listenForFormats_of_dmaBuf {env : ProtocolEnv} {g : DisplayGlobals}
    (hs : g.wlStreamDpy = 0) (hd : g.wlDmaBuf ≠ 0) (hl : env.dmaBufListenerRet = 0)
    (hf : 0 ≤ env.feedbackListenerRet) :
    0 ≤ (listenForFormats env g).2 ∧ (listenForFormats env g).1.wlStreamDpy = 0 ∧
      (listenForFormats env g).1.wlDmaBuf ≠ 0 := by
  unfold listenForFormats
  rw [if_neg (by simpa using hs), if_pos hd]
  split_ifs with hv
  · unfold DisplayGlobals.create
    split_ifs <;> simp [hs, hd, hf]
  · exact ⟨hl ▸ le_refl _, hs, hd⟩

theorem initializeSyncSupport_streamDpy (devExts : Option (List String)) (env : SyncEnv)
    (drmFd : Int) (g : DisplayGlobals) (r : SyncResources) :
    (initializeSyncSupport devExts env drmFd g r).1.wlStreamDpy = g.wlStreamDpy := by
  simp only [initializeSyncSupport, wlEglCheckDriverSyncSupport, probeSyncobj, probeCreateSync]
  repeat' split
  all_goals rfl

theorem initializeProtocols_reads_released_set {env : InitEnv} (henv : env.OffersDmaBuf)
    {w : DisplayWorld} {n : Nat} (hset : w.dmaBuf.formatSet = ⟨.dangling n⟩)
    (hstream : w.globals.wlStreamDpy = 0) {pre post : List RoundtripEvent}
    {format modHi modLo : UInt32} {okFormats okModifiers : Bool}
    (hsecond : env.secondRoundtrip = pre ++ .modifier format modHi modLo okFormats okModifiers :: post)
    (hpre : ∀ ev ∈ pre, ∃ x, ev = .global x) :
    initializeProtocols env w = .error .useAfterFree := by
  have hq : ¬env.queueOk = false := by simp [henv.queue]
  have hcreate : ∀ g : DisplayGlobals, (g.create env.alloc).2 ≠ 0 ∧
      (g.create env.alloc).1.wlStreamDpy = g.wlStreamDpy := fun g => by
    simp [DisplayGlobals.create, henv.allocs]
  unfold initializeProtocols
  rw [if_neg hq]
  generalize hc₁ : w.globals.create env.alloc = c₁
  obtain ⟨g₁, wrapper⟩ := c₁
  obtain ⟨hw, hs₁⟩ : wrapper ≠ 0 ∧ g₁.wlStreamDpy = 0 := by
    simpa [hc₁, hstream] using hcreate w.globals
  dsimp only
  generalize hc₂ : g₁.create env.alloc = c₂
  obtain ⟨g₂, registry⟩ := c₂
  obtain ⟨hr, hs₂⟩ : registry ≠ 0 ∧ g₂.wlStreamDpy = 0 := by simpa [hc₂, hs₁] using hcreate g₁
  dsimp only
  -- the first round trip binds the dma-buf object and no EGLStream display
  have hrt : registryRoundtrip env.protocol g₂ =
      (dispatchGlobals env.alloc g₂ env.firstRoundtrip, env.firstRet) := if_pos henv.registry
  have hs₃ : (dispatchGlobals env.alloc g₂ env.firstRoundtrip).wlStreamDpy = 0 :=
    dispatchGlobals_induction (fun g => g.wlStreamDpy = 0) (fun _ => False) _ _
      (fun g x hx h => (registryHandleGlobal_streamDpy_of_ne (henv.noStream x hx)).trans
        (h.resolve_right id)) (.inl hs₂)
  have hd₃ : (dispatchGlobals env.alloc g₂ env.firstRoundtrip).wlDmaBuf ≠ 0 :=
    dispatchGlobals_induction (fun g => g.wlDmaBuf ≠ 0)
      (fun x => x.interface = "zwp_linux_dmabuf_v1" ∧ 3 ≤ x.version) _ _
      (fun g x _ h => registryHandleGlobal_wlDmaBuf henv.allocs h) (.inr henv.dmaBuf)
  obtain ⟨hret, hs₄, hd₄⟩ :=
    @listenForFormats_of_dmaBuf env.protocol _ hs₃ hd₃ henv.dmaBufListener henv.feedbackListener
  have hlisten : dmaBufListening env.protocol (dispatchGlobals env.alloc g₂ env.firstRoundtrip) :=
    by simp [dmaBufListening, hs₃, hd₃, henv.dmaBufListener]
  simp only [hw, hr, hrt, if_false, not_lt.2 henv.first]
  -- the default feedback, when asked for, leaves the format set alone
  obtain ⟨w₁, hatt, hset₁⟩ : ∃ w₁, (if asksFeedback env.protocol
        (dispatchGlobals env.alloc g₂ env.firstRoundtrip) then
      w.onDmaBuf (.getDefaultFeedback (listenForFormats env.protocol
        (dispatchGlobals env.alloc g₂ env.firstRoundtrip)).1.wlDmaBufFeedback)
      else .ok w) = .ok w₁ ∧ w₁.dmaBuf.formatSet = w.dmaBuf.formatSet := by
    split_ifs <;> exact ⟨_, rfl, rfl⟩
  have hpre' : ∀ feedback, pre.filterMap (RoundtripEvent.dmaBuf? true feedback) = [] :=
    fun _ => List.filterMap_eq_nil_iff.2 fun ev hev => by obtain ⟨x, rfl⟩ := hpre ev hev; rfl
  rw [hatt, except_ok_bind]
  simp only [not_lt.2 hret, hs₄, hd₄, and_false, or_self, if_false, hlisten,
    dispatchRoundtrip_eq, hsecond, List.filterMap_append, hpre', List.nil_append,
    List.filterMap_cons, RoundtripEvent.dmaBuf?, if_true, runDmaBuf, dmaBufStep,
    dmabufHandleModifier, hset₁, hset, wlEglFormatSetAdd_dangling]
  rfl

theorem runHook_of_listed {β : Type} {fallback : β}
    {body : DisplayWorld → Nat → Except Fault (DisplayWorld × β)} {w : DisplayWorld} {a : Nat}
    {d : WlEglDisplay}
    (hlive : ∀ b ∈ w.egl.wlEglDisplayList, b ≠ 0 ∧ ∃ d, w.egl.displays b = some d)
    (ha : a ∈ w.egl.wlEglDisplayList) (hd : w.egl.displays a = some d) :
    runHook fallback body w a = (do
      let (w₁, r) ← body { w with egl := w.egl.setDisplay a { d with refCount := d.refCount + 1 } } a
      let s ← wlEglReleaseDisplay w₁.egl a
      pure ({ w₁ with egl := s }, r)) := by
  rcases wlEglAcquireDisplay_live a hlive with ⟨d', ha0, hd', hacq⟩ | ⟨hna, -⟩
  · obtain rfl : d = d' := Option.some.inj (hd.symm.trans hd')
    simp only [runHook, hacq, except_ok_bind, if_neg ha0]
  · exact absurd ha hna

/-- The format set a termination released is read by the next initialization on a compositor
that offers dma-buf, at its first `modifier` event. -/
theorem callHooks_reinitialization_reads_released_set {driver : Driver}
    (hdrv : DriverSucceeds driver) {w : DisplayWorld} {a : Nat} {d : WlEglDisplay}
    {dd : WlEglDeviceDpy} {xs : List DmaBufFormat}
    (hlive : ∀ b ∈ w.egl.wlEglDisplayList, b ≠ 0 ∧ ∃ d, w.egl.displays b = some d)
    (ha : a ∈ w.egl.wlEglDisplayList) (hd : w.egl.displays a = some d) (hr : 1 ≤ d.refCount)
    (h1 : d.initCount = 1) (hdev : d.devDpy ≠ 0) (hdd : w.egl.devDpys d.devDpy = some dd)
    (hset : w.dmaBuf.formatSet = ⟨.live xs⟩)
    (hrel : ∃ pd, releaseDmaBuf w.proc w.dmaBuf = .ok pd)
    {env : InitEnv} (henv : env.OffersDmaBuf) {pre post : List RoundtripEvent}
    {format modHi modLo : UInt32} {okFormats okModifiers : Bool}
    (hsecond : env.secondRoundtrip = pre ++ .modifier format modHi modLo okFormats okModifiers :: post)
    (hpre : ∀ ev ∈ pre, ∃ x, ev = .global x) :
    callHooks driver a w [.terminateHook, .initializeHook env] = .error .useAfterFree := by
  have ha0 := (hlive a ha).1
  obtain ⟨⟨p, dmaBuf⟩, hrel⟩ := hrel
  have hfreed : dmaBuf.formatSet = ⟨.dangling xs.length⟩ :=
    wlEglDestroyFormatSet_live (hset ▸ (releaseDmaBuf_spec hrel).1)
  -- the termination, on the whole display: the driver terminates and the release runs
  have hd₀ : (w.egl.setDisplay a { d with refCount := d.refCount + 1 }).displays a =
      some { d with refCount := d.refCount + 1 } := by simp [EglState.setDisplay]
  obtain ⟨dd', hterm, -⟩ := @wlInternalTerminate_of_succeeds driver hdrv
    (w.egl.setDisplay a { d with refCount := d.refCount + 1 }) _ _ hdev (by simpa using hdd)
  obtain ⟨w₂, hrun, hdmaBuf, hglobals⟩ : ∃ w₂,
      runHook false (Call.body driver .terminateHook) w a = .ok (w₂, true) ∧
        w₂.dmaBuf = dmaBuf ∧ w₂.globals = w.globals.clearProxies := by
    have h0 : ¬d.initCount = 0 := by omega
    have hgt : ¬1 < d.initCount := by omega
    rw [runHook_of_listed hlive ha hd]
    simp only [Call.body, terminateDisplay, readDisplay_of_live _ ha0 hd₀, except_ok_bind, h0, hgt,
      false_and, if_false, hterm, Bool.true_eq_false, hrel, true_or, if_true, except_pure]
    -- the release of the reference reads a display that is there
    simp only [bind, Except.bind]
    split
    · rename_i err heq
      simp [wlEglReleaseDisplay, wlEglUnrefDisplay, EglState.readDisplay, ha0, EglState.log,
        EglState.setDisplay] at heq
      split_ifs at heq
    · exact ⟨_, rfl, rfl, rfl⟩
  -- the termination, counted: the count is back at `0` and the display still listed
  obtain ⟨s₁, r, es, hrun₁, hdisp, hlist, ⟨dd₁, hdd₁, -⟩, -, -, -⟩ :=
    callHook_balanced hdrv (.inr rfl) hlive ha hd hr hdev hdd (fun _ => h1.le)
  obtain ⟨-, hrun₂⟩ := @runHook_refines _ _ _ _ (fun (_ : Unit) => Hook.body driver .terminateHook)
    () (fun w a w' r hb => ⟨(), terminateDisplay_refines hb⟩) _ _ _ _ hrun
  obtain ⟨rfl, -⟩ := Prod.mk.inj (Except.ok.inj (hrun₁.symm.trans hrun₂))
  have hcount : balancedCount d.useInitRefCount .terminateHook d.initCount = 0 := by
    cases d.useInitRefCount <;> simp [balancedCount, h1]
  rw [hcount] at hdisp
  have hd₂ : w₂.egl.displays a = some { d with initCount := 0 } := by simp [hdisp]
  -- the initialization reaches the protocol part with the freed set
  set w₃ : DisplayWorld := { w₂ with
    egl := w₂.egl.setDisplay a { d with initCount := 0, refCount := d.refCount + 1 } }
  obtain ⟨dd₂, hinit, -⟩ := @wlInternalInitialize_of_succeeds driver hdrv w₃.egl _ _ hdev
    (by simpa [w₃] using hdd₁)
  have hbody : initializeBody driver env w₃ a = .error .useAfterFree := by
    have hd₃ : w₃.egl.displays a = some { d with initCount := 0, refCount := d.refCount + 1 } := by
      simp [w₃, EglState.setDisplay]
    simp only [initializeBody, readDisplay_of_live _ ha0 hd₃, except_ok_bind, lt_irrefl, if_false,
      hinit, if_true]
    rw [@initializeProtocols_reads_released_set env henv _ xs.length ?_ ?_ _ _ _ _ _ _ _ hsecond hpre]
    · rfl
    · simpa [w₃, hdmaBuf] using hfreed
    · simp [initializeSyncSupport_streamDpy, w₃, hglobals, DisplayGlobals.clearProxies]
  simp only [callHooks, hrun, except_ok_bind, Call.body, hbody,
    runHook_of_listed (listedLive_of_update hlive hdisp hlist) (hlist ▸ ha) hd₂]
  rfl

def dmaBufCompositor : InitEnv :=
  ⟨none, ⟨none, fun _ => none, fun _ _ => none, fun _ => none, 0⟩, fun _ => true, true, 0,
    [⟨1, "zwp_linux_dmabuf_v1", 3⟩], 0, 0, 0, 0, [.modifier 0x34325258 0 0 true true], 0⟩

theorem dmaBufCompositor_offersDmaBuf : dmaBufCompositor.OffersDmaBuf :=
  ⟨fun _ => rfl, rfl, rfl, le_refl _, by simp [dmaBufCompositor],
    ⟨_, List.mem_singleton_self _, rfl, le_refl _⟩, rfl, le_refl _⟩

theorem trackedHeldWorld_reinitialization_faults :
    ∃ w₁, callHooks workingDriver 1 trackedHeldWorld [.initializeHook dmaBufCompositor] = .ok w₁ ∧
      callHooks workingDriver 1 w₁ [.terminateHook, .initializeHook dmaBufCompositor] =
        .error .useAfterFree := by
  refine ⟨_, rfl, ?_⟩
  apply callHooks_reinitialization_reads_released_set workingDriver_succeeds
  case hlive =>
    show ∀ b ∈ ([1] : List Nat), _
    simp only [List.mem_singleton, forall_eq]
    exact ⟨by decide, _, rfl⟩
  case ha => exact List.mem_singleton_self 1
  case hd => rfl
  case hr => decide
  case h1 => rfl
  case hdev => decide
  case hdd => rfl
  case hset => rfl
  case hrel => exact ⟨_, rfl⟩
  case henv => exact dmaBufCompositor_offersDmaBuf
  case hsecond => exact (List.nil_append _).symm
  case hpre => simp

end Whole

end Display
end EglWayland
