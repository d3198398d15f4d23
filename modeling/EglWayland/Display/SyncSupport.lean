import EglWayland.Display.Globals
import EglWayland.Display.State

/-!
# Extension strings and explicit sync

An extension string is given by its words.  The platform answers the external platform
interface's queries for its client and display extensions from the driver's, and
once the device display is initialized, `wlEglInitializeHook` records whether the driver
offers `EGL_ANDROID_native_fence_sync` and calls `wlEglCheckDriverSyncSupport`.  That function
probes the driver with a DRM sync object exported as a descriptor.  An `eglCreateSync` that
refuses the descriptor with `EGL_BAD_ATTRIBUTE` marks a driver recent enough for explicit sync.
The two flags decide whether `registry_handle_global` binds `wp_linux_drm_syncobj_manager_v1`
during the round trips that follow.

The probe releases the sync object and the `EGLSync` it makes on every path, but it never
closes the descriptor `drmSyncobjHandleToFD` gives it.
-/

namespace EglWayland
namespace Display

/-!
# Extension strings

`EGLExtPlatformString` lists the names `wlEglQueryStringExport` is asked for; a name other than
the two it handles is kept by its number, the enumeration's holes included.
-/

/-- Modelled from the spec: whether a name is one of the words of an extension string, the
spec's named capability flags; `wlEglFindExtension`'s source is not part of this repository. -/
def wlEglFindExtension (extension : String) (extensions : List String) : Bool :=
  extensions.contains extension

inductive EGLExtPlatformString where
  | platformClientExtensions
  | displayExtensions
  | other (name : Nat)
  deriving DecidableEq, Repr

/-- `wlEglQueryStringExport(data, dpy, name)` on a driver of version `major.minor` whose
`EGL_EXTENSIONS` of `dpy` are `exts`; `none` is `NULL`. -/
def wlEglQueryStringExport (major minor : Nat) (dpy : Nat) (exts : List String)
    (name : EGLExtPlatformString) : Option String :=
  let isEGL15 := 1 < major ∨ (major = 1 ∧ 5 ≤ minor)
  let clientExtensions :=
    if isEGL15 then "EGL_KHR_platform_wayland EGL_EXT_platform_wayland EGL_EXT_explicit_device"
    else "EGL_EXT_platform_wayland"
  match name with
  | .platformClientExtensions => some clientExtensions
  | .displayExtensions =>
      if dpy = 0 then some clientExtensions
      else if wlEglFindExtension "EGL_KHR_stream" exts &&
          wlEglFindExtension "EGL_KHR_stream_producer_eglsurface" exts then
        if wlEglFindExtension "EGL_KHR_stream_cross_process_fd" exts then
          some "EGL_EXT_present_opaque EGL_WL_bind_wayland_display EGL_WL_wayland_eglstream"
        else if wlEglFindExtension "EGL_NV_stream_consumer_eglimage" exts &&
            wlEglFindExtension "EGL_MESA_image_dma_buf_export" exts then
          some "EGL_EXT_present_opaque EGL_WL_bind_wayland_display"
        else none
      else none
  | .other _ => none

-- A driver with the dma-buf path but no cross-process descriptors gets no EGLStream extension.
example : wlEglQueryStringExport 1 5 1
    ["EGL_KHR_stream", "EGL_KHR_stream_producer_eglsurface", "EGL_NV_stream_consumer_eglimage",
      "EGL_MESA_image_dma_buf_export"] .displayExtensions =
    some "EGL_EXT_present_opaque EGL_WL_bind_wayland_display" := by decide

/-!
# The probe

`SyncResources` are the live DRM sync objects, the live `EGLSync`s and the open descriptors of
the process.  `probeCreateSync` runs from the `eglCreateSync` to `destroy:`: a failure with
`EGL_BAD_ATTRIBUTE` sets `supports_explicit_sync`, and a sync the call made is waited on and
destroyed.  `probeSyncobj` runs from `drmSyncobjHandleToFD` to `destroy:`.  `SyncEnv.Exports`
says the probe runs and both DRM calls succeed, so that it exports a descriptor.
-/

def eglSyncStatus : Int := 0x30F1
def eglSignaled : Int := 0x30F2
def eglSyncNativeFenceAndroid : Int := 0x3144
def eglSyncNativeFenceFdAndroid : Int := 0x3145

/-- What the probe meets: `getenv("__NV_DISABLE_EXPLICIT_SYNC")`, the handle
`drmSyncobjCreate` makes on a DRM descriptor (`none` when it fails), the descriptor
`drmSyncobjHandleToFD` exports for a handle, the `EGLSync` the driver's `eglCreateSync`
returns for an attribute list (`none` for `EGL_NO_SYNC_KHR`), and what `eglGetError` then
reports. -/
structure SyncEnv where
  disableExplicitSyncStr : Option String
  syncobjCreate : Int → Option Nat
  syncobjHandleToFd : Int → Nat → Option Int
  createSync : List Int → Option Nat
  getError : Int

structure SyncResources where
  syncobjs : List Nat
  syncs : List Nat
  fds : List Int
  deriving DecidableEq, Repr

def syncAttribs (syncFd : Int) : List Int :=
  [eglSyncNativeFenceFdAndroid, syncFd, eglSyncStatus, eglSignaled, eglNone]

def probeCreateSync (env : SyncEnv) (syncFd : Int) (g : DisplayGlobals) (r : SyncResources) :
    DisplayGlobals × SyncResources :=
  match env.createSync (syncAttribs syncFd) with
  | none =>
      (if env.getError = eglBadAttribute then { g with supportsExplicitSync := true } else g, r)
  | some eglSync => (g, { r with syncs := (eglSync :: r.syncs).erase eglSync })

def probeSyncobj (env : SyncEnv) (drmFd : Int) (tmpSyncobj : Nat) (g : DisplayGlobals)
    (r : SyncResources) : DisplayGlobals × SyncResources :=
  match env.syncobjHandleToFd drmFd tmpSyncobj with
  | none => (g, r)
  | some syncFd => probeCreateSync env syncFd g { r with fds := syncFd :: r.fds }

def wlEglCheckDriverSyncSupport (env : SyncEnv) (drmFd : Int) (g : DisplayGlobals)
    (r : SyncResources) : DisplayGlobals × SyncResources :=
  if env.disableExplicitSyncStr = some "1" ∨ g.supportsNativeFenceSync = false then (g, r)
  else
    match env.syncobjCreate drmFd with
    | none => (g, r)
    | some tmpSyncobj =>
        let gr := probeSyncobj env drmFd tmpSyncobj g
          { r with syncobjs := tmpSyncobj :: r.syncobjs }
        (gr.1, { gr.2 with syncobjs := gr.2.syncobjs.erase tmpSyncobj })

/-- `wlEglInitializeHook` from the query of the driver's extensions (`NULL` as `none`) to
the probe. -/
def initializeSyncSupport (devExts : Option (List String)) (env : SyncEnv) (drmFd : Int)
    (g : DisplayGlobals) (r : SyncResources) : DisplayGlobals × SyncResources :=
  let g := if devExts.any (wlEglFindExtension "EGL_ANDROID_native_fence_sync") then
      { g with supportsNativeFenceSync := true }
    else g
  wlEglCheckDriverSyncSupport env drmFd g r

/-- The probe finds explicit sync: it runs, both DRM calls succeed, and the driver refuses the
exported descriptor with `EGL_BAD_ATTRIBUTE`. -/
def SyncEnv.FindsExplicitSync (env : SyncEnv) (drmFd : Int) : Prop :=
  env.disableExplicitSyncStr ≠ some "1" ∧ ∃ tmpSyncobj syncFd,
    env.syncobjCreate drmFd = some tmpSyncobj ∧
    env.syncobjHandleToFd drmFd tmpSyncobj = some syncFd ∧
    env.createSync (syncAttribs syncFd) = none ∧ env.getError = eglBadAttribute

def SyncEnv.Exports (env : SyncEnv) (drmFd : Int) (syncFd : Int) : Prop :=
  env.disableExplicitSyncStr ≠ some "1" ∧ ∃ tmpSyncobj,
    env.syncobjCreate drmFd = some tmpSyncobj ∧
    env.syncobjHandleToFd drmFd tmpSyncobj = some syncFd

/-! # What the probe leaves -/

theorem probeCreateSync_resources (env : SyncEnv) (syncFd : Int) (g : DisplayGlobals)
    (r : SyncResources) : (probeCreateSync env syncFd g r).2 = r := by
  unfold probeCreateSync
  split
  · rfl
  · simp

theorem probeSyncobj_resources (env : SyncEnv) (drmFd : Int) (tmpSyncobj : Nat)
    (g : DisplayGlobals) (r : SyncResources) :
    (probeSyncobj env drmFd tmpSyncobj g r).2 =
      { r with fds := (env.syncobjHandleToFd drmFd tmpSyncobj).toList ++ r.fds } := by
  unfold probeSyncobj
  split <;> rename_i h <;> simp [h, probeCreateSync_resources]

/-- The probe destroys every sync object and `EGLSync` it makes and closes nothing: the only
resource it leaves is the descriptor `drmSyncobjHandleToFD` exported, when it got that far. -/
theorem wlEglCheckDriverSyncSupport_leaves_syncFd (env : SyncEnv) (drmFd : Int)
    (g : DisplayGlobals) (r : SyncResources) :
    ∃ fds, (wlEglCheckDriverSyncSupport env drmFd g r).2 = { r with fds := fds ++ r.fds } ∧
      fds.length ≤ 1 ∧
      ∀ syncFd, syncFd ∈ fds ↔ g.supportsNativeFenceSync = true ∧ env.Exports drmFd syncFd := by
  unfold wlEglCheckDriverSyncSupport
  split_ifs with hskip
  · refine ⟨[], by simp, by simp, fun syncFd => ?_⟩
    simp only [List.not_mem_nil, false_iff, not_and, SyncEnv.Exports]
    intro hnat hdis
    simp_all
  · have hrun : env.disableExplicitSyncStr ≠ some "1" ∧ g.supportsNativeFenceSync = true := by
      simpa [not_or] using hskip
    split
    · rename_i hcreate
      refine ⟨[], by simp, by simp, fun syncFd => ?_⟩
      simp [SyncEnv.Exports, hcreate]
    · rename_i tmpSyncobj hcreate
      refine ⟨(env.syncobjHandleToFd drmFd tmpSyncobj).toList, ?_, ?_, fun syncFd => ?_⟩
      · simp [probeSyncobj_resources]
      · cases env.syncobjHandleToFd drmFd tmpSyncobj <;> simp
      · simp [SyncEnv.Exports, hcreate, hrun, eq_comm]

/-!
# What the probe decides

The probe sends nothing and leaves native fence sync alone; it sets explicit sync only when it
finds it.  After the initialization's part, native fence sync is set by an extension string that
names it, and explicit sync by a probe that finds it.
-/

theorem probeCreateSync_flags (env : SyncEnv) (syncFd : Int) (g : DisplayGlobals)
    (r : SyncResources) :
    (probeCreateSync env syncFd g r).1.requests = g.requests ∧
      (probeCreateSync env syncFd g r).1.supportsNativeFenceSync = g.supportsNativeFenceSync ∧
      ((probeCreateSync env syncFd g r).1.supportsExplicitSync = true →
        g.supportsExplicitSync = true ∨
          env.createSync (syncAttribs syncFd) = none ∧ env.getError = eglBadAttribute) := by
  unfold probeCreateSync
  split
  · rename_i hsync
    split_ifs with herr
    · exact ⟨rfl, rfl, fun _ => .inr ⟨hsync, herr⟩⟩
    · exact ⟨rfl, rfl, .inl⟩
  · exact ⟨rfl, rfl, .inl⟩

theorem probeSyncobj_flags (env : SyncEnv) (drmFd : Int) (tmpSyncobj : Nat) (g : DisplayGlobals)
    (r : SyncResources) :
    (probeSyncobj env drmFd tmpSyncobj g r).1.requests = g.requests ∧
      (probeSyncobj env drmFd tmpSyncobj g r).1.supportsNativeFenceSync =
        g.supportsNativeFenceSync ∧
      ((probeSyncobj env drmFd tmpSyncobj g r).1.supportsExplicitSync = true →
        g.supportsExplicitSync = true ∨ ∃ syncFd,
          env.syncobjHandleToFd drmFd tmpSyncobj = some syncFd ∧
          env.createSync (syncAttribs syncFd) = none ∧ env.getError = eglBadAttribute) := by
  unfold probeSyncobj
  split
  · exact ⟨rfl, rfl, .inl⟩
  · rename_i syncFd hfd
    obtain ⟨hreq, hn, he⟩ := probeCreateSync_flags env syncFd g { r with fds := syncFd :: r.fds }
    exact ⟨hreq, hn, fun h => (he h).imp_right fun hs => ⟨syncFd, hfd, hs⟩⟩

theorem wlEglCheckDriverSyncSupport_flags (env : SyncEnv) (drmFd : Int) (g : DisplayGlobals)
    (r : SyncResources) :
    (wlEglCheckDriverSyncSupport env drmFd g r).1.requests = g.requests ∧
      (wlEglCheckDriverSyncSupport env drmFd g r).1.supportsNativeFenceSync =
        g.supportsNativeFenceSync ∧
      ((wlEglCheckDriverSyncSupport env drmFd g r).1.supportsExplicitSync = true →
        g.supportsExplicitSync = true ∨ env.FindsExplicitSync drmFd) := by
  unfold wlEglCheckDriverSyncSupport
  split_ifs with hskip
  · exact ⟨rfl, rfl, .inl⟩
  · have hdis : env.disableExplicitSyncStr ≠ some "1" := fun h => hskip (.inl h)
    split
    · exact ⟨rfl, rfl, .inl⟩
    · rename_i tmpSyncobj hcreate
      obtain ⟨hreq, hn, he⟩ :=
        probeSyncobj_flags env drmFd tmpSyncobj g { r with syncobjs := tmpSyncobj :: r.syncobjs }
      refine ⟨hreq, hn, fun h => (he h).imp_right ?_⟩
      rintro ⟨syncFd, hfd, hs, herr⟩
      exact ⟨hdis, tmpSyncobj, syncFd, hcreate, hfd, hs, herr⟩

theorem initializeSyncSupport_flags {devExts : Option (List String)} {env : SyncEnv}
    {drmFd : Int} {g g' : DisplayGlobals} {r r' : SyncResources}
    (h : initializeSyncSupport devExts env drmFd g r = (g', r')) :
    g'.requests = g.requests ∧
    (g'.supportsNativeFenceSync = true →
      g.supportsNativeFenceSync = true ∨
        devExts.any (wlEglFindExtension "EGL_ANDROID_native_fence_sync") = true) ∧
    (g'.supportsExplicitSync = true →
      g.supportsExplicitSync = true ∨ env.FindsExplicitSync drmFd) := by
  have key := wlEglCheckDriverSyncSupport_flags env drmFd
    (if devExts.any (wlEglFindExtension "EGL_ANDROID_native_fence_sync") then
      { g with supportsNativeFenceSync := true } else g) r
  rw [show wlEglCheckDriverSyncSupport env drmFd _ r = (g', r') from h] at key
  obtain ⟨hreq, hn, he⟩ := key
  split_ifs at hreq hn he with hext
  · exact ⟨hreq, fun _ => .inr hext, he⟩
  · exact ⟨hreq, fun h => .inl (hn.symm.trans h), he⟩

/-!
# Binding the syncobj manager

A syncobj manager announcement binds at version `1` when both flags are set and the proxy can be
allocated.  `initializeProtocols_induction` states what a proxy allocation, the announcements of
a round trip and the listener on the formats all keep: the protocol part of the initialization
keeps it too.
-/

theorem create_flags (alloc : Nat → Bool) (g : DisplayGlobals) :
    (g.create alloc).1.supportsNativeFenceSync = g.supportsNativeFenceSync ∧
      (g.create alloc).1.supportsExplicitSync = g.supportsExplicitSync := by
  unfold DisplayGlobals.create
  split_ifs <;> exact ⟨rfl, rfl⟩

theorem registryHandleGlobal_flags (alloc : Nat → Bool) (g : DisplayGlobals) (a : RegistryGlobal) :
    (registryHandleGlobal alloc g a).supportsNativeFenceSync = g.supportsNativeFenceSync ∧
      (registryHandleGlobal alloc g a).supportsExplicitSync = g.supportsExplicitSync := by
  unfold registryHandleGlobal
  split_ifs <;> simp [DisplayGlobals.bind_eq]

theorem registryHandleGlobal_of_syncobj {a : RegistryGlobal}
    (ha : a.interface = "wp_linux_drm_syncobj_manager_v1") (alloc : Nat → Bool)
    (g : DisplayGlobals) :
    (registryHandleGlobal alloc g a).requests =
      if (g.supportsNativeFenceSync = true ∧ g.supportsExplicitSync = true) ∧ alloc g.allocs then
        g.requests ++ [.bind a.name a.interface 1 (g.allocs + 1)]
      else g.requests := by
  unfold registryHandleGlobal
  rw [if_neg (by rw [ha]; decide), if_neg (by rw [ha]; decide), if_neg (by rw [ha]; decide),
    if_neg (by rw [ha]; decide)]
  by_cases hf : g.supportsNativeFenceSync = true ∧ g.supportsExplicitSync = true
  · rw [if_pos ⟨ha, hf⟩]
    simp only [DisplayGlobals.bind_eq]
    split_ifs <;> simp_all
  · rw [if_neg fun h => hf h.2, if_neg fun h => hf h.1]

/-- The flags that gate the syncobj manager, and the syncobj binds sent since `base`: each
asks for version `1` with both flags set. -/
def SyncobjSince (base : List Request) (nativeFenceSync explicitSync : Bool)
    (g : DisplayGlobals) : Prop :=
  g.supportsNativeFenceSync = nativeFenceSync ∧ g.supportsExplicitSync = explicitSync ∧
    ∀ name version proxy,
      Request.bind name "wp_linux_drm_syncobj_manager_v1" version proxy ∈ g.requests →
        Request.bind name "wp_linux_drm_syncobj_manager_v1" version proxy ∈ base ∨
          version = 1 ∧ nativeFenceSync = true ∧ explicitSync = true

namespace SyncobjSince

variable {base : List Request} {nativeFenceSync explicitSync : Bool} {g : DisplayGlobals}

theorem of_requests (h : g.requests = base) :
    SyncobjSince base g.supportsNativeFenceSync g.supportsExplicitSync g :=
  ⟨rfl, rfl, fun _ _ _ hm => .inl (h ▸ hm)⟩

theorem create (h : SyncobjSince base nativeFenceSync explicitSync g) (alloc : Nat → Bool) :
    SyncobjSince base nativeFenceSync explicitSync (g.create alloc).1 := by
  obtain ⟨hn, he⟩ := create_flags alloc g
  refine ⟨hn.trans h.1, he.trans h.2.1, ?_⟩
  rw [DisplayGlobals.create_requests]
  exact h.2.2

theorem registryHandleGlobal (h : SyncobjSince base nativeFenceSync explicitSync g)
    (alloc : Nat → Bool) (a : RegistryGlobal) :
    SyncobjSince base nativeFenceSync explicitSync (registryHandleGlobal alloc g a) := by
  obtain ⟨hn, he⟩ := registryHandleGlobal_flags alloc g a
  refine ⟨hn.trans h.1, he.trans h.2.1, fun name version proxy hmem => ?_⟩
  by_cases hold : Request.bind name "wp_linux_drm_syncobj_manager_v1" version proxy ∈ g.requests
  · exact h.2.2 _ _ _ hold
  obtain ⟨new, hreq, hans⟩ := registryHandleGlobal_requests alloc g a
  obtain ⟨-, hi, -⟩ := hans _ ((List.mem_append.1 (hreq ▸ hmem)).resolve_left hold)
  rw [registryHandleGlobal_of_syncobj hi.symm] at hmem
  split_ifs at hmem with hf
  · rcases List.mem_append.1 hmem with hm | hm
    · exact absurd hm hold
    · obtain ⟨-, -, hv, -⟩ := Request.bind.inj (List.mem_singleton.1 hm)
      exact .inr ⟨hv, h.1.symm.trans hf.1.1, h.2.1.symm.trans hf.1.2⟩
  · exact absurd hmem hold

theorem dispatch (alloc : Nat → Bool) : ∀ (as : List RegistryGlobal) {g : DisplayGlobals},
    SyncobjSince base nativeFenceSync explicitSync g →
    SyncobjSince base nativeFenceSync explicitSync (dispatchGlobals alloc g as)
  | [], _, h => h
  | a :: rest, _, h => dispatch alloc rest (h.registryHandleGlobal alloc a)

theorem listen (h : SyncobjSince base nativeFenceSync explicitSync g) (env : ProtocolEnv) :
    SyncobjSince base nativeFenceSync explicitSync (listenForFormats env g).1 := by
  unfold listenForFormats
  split_ifs
  · exact h
  · obtain ⟨hn, he, hb⟩ := h.create env.alloc
    exact ⟨hn, he, fun name version proxy hmem => hb _ _ _ (by simpa using hmem)⟩
  · exact h
  · exact h

end SyncobjSince

theorem initializeProtocols_induction (P : DisplayGlobals → Prop) {env : ProtocolEnv}
    (hcreate : ∀ g, P g → P (g.create env.alloc).1)
    (hdispatch : ∀ g as, P g → P (dispatchGlobals env.alloc g as))
    (hlisten : ∀ g, P g → P (listenForFormats env g).1)
    {g₀ g : DisplayGlobals} {ok : Bool} (h₀ : P g₀)
    (h : initializeProtocols env g₀ = .ok (g, ok)) : P g := by
  have hround : ∀ g, P g → P (registryRoundtrip env g).1 := fun g hg => by
    unfold registryRoundtrip
    split_ifs
    · exact hdispatch g _ hg
    · exact hg
  unfold initializeProtocols at h
  split_ifs at h
  · cases h
    exact h₀
  split at h
  rename_i g₁ _ hw
  split_ifs at h
  split at h
  rename_i g₂ _ hr
  split_ifs at h
  have hg₂ : g₂ = ((g₀.create env.alloc).1.create env.alloc).1 := by rw [hw, hr]
  have h₂ : P g₂ := hg₂ ▸ hcreate _ (hcreate g₀ h₀)
  split at h
  rename_i g₃ _ hret
  have hg₃ : g₃ = (registryRoundtrip env g₂).1 := by rw [hret]
  have h₃ : P g₃ := hg₃ ▸ hround g₂ h₂
  split_ifs at h
  · cases h
    exact h₃
  split at h
  rename_i g₄ _ hlisten₄
  have hg₄ : g₄ = (listenForFormats env g₃).1 := by rw [hlisten₄]
  have h₄ : P g₄ := hg₄ ▸ hlisten g₃ h₃
  split_ifs at h
  · cases h
    exact h₄
  · cases h
    exact hdispatch _ _ h₄

/-- An initialization binds the syncobj manager only at version `1`, and only on a display
where native fence sync was found (by the driver's extension string now, or at an earlier
initialization) and explicit sync was found (by this probe, or an earlier one). -/
theorem syncobjManager_bound_after_probe {devExts : Option (List String)} {senv : SyncEnv}
    {drmFd : Int} {g g₁ g₂ : DisplayGlobals} {r r₁ : SyncResources} {penv : ProtocolEnv}
    {ok : Bool} (hsync : initializeSyncSupport devExts senv drmFd g r = (g₁, r₁))
    (hprot : initializeProtocols penv g₁ = .ok (g₂, ok)) {name version proxy : Nat}
    (hbind : Request.bind name "wp_linux_drm_syncobj_manager_v1" version proxy ∈ g₂.requests)
    (hnew : Request.bind name "wp_linux_drm_syncobj_manager_v1" version proxy ∉ g.requests) :
    version = 1 ∧
      (g.supportsNativeFenceSync = true ∨
        devExts.any (wlEglFindExtension "EGL_ANDROID_native_fence_sync") = true) ∧
      (g.supportsExplicitSync = true ∨ senv.FindsExplicitSync drmFd) := by
  obtain ⟨hreq, hn, he⟩ := initializeSyncSupport_flags hsync
  have hinv : SyncobjSince g.requests g₁.supportsNativeFenceSync g₁.supportsExplicitSync g₂ :=
    initializeProtocols_induction _ (fun _ h => h.create _) (fun _ as h => h.dispatch _ as)
      (fun _ h => h.listen penv) (SyncobjSince.of_requests hreq) hprot
  rcases hinv.2.2 _ _ _ hbind with hold | ⟨hv, hnf, hes⟩
  · exact absurd hold hnew
  · exact ⟨hv, hn hnf, he hes⟩

/-! A driver that offers native fence sync and refuses the probe's descriptor, on a compositor
announcing dma-buf version `4` and the syncobj manager. -/

def explicitSyncDriver : SyncEnv :=
  ⟨none, fun _ => some 1, fun _ _ => some 9, fun _ => none, eglBadAttribute⟩

def syncobjCompositor : ProtocolEnv :=
  ⟨fun _ => true, true, 0,
    [⟨1, "zwp_linux_dmabuf_v1", 4⟩, ⟨2, "wp_linux_drm_syncobj_manager_v1", 1⟩], 0, 0, 0, 0, [], 0⟩

theorem explicitSyncDriver_binds_syncobj :
    initializeSyncSupport (some ["EGL_ANDROID_native_fence_sync"]) explicitSyncDriver 3 .zero
        ⟨[], [], []⟩ =
      ({ DisplayGlobals.zero with supportsNativeFenceSync := true, supportsExplicitSync := true },
        ⟨[], [], [9]⟩) ∧
    initializeProtocols syncobjCompositor
        { DisplayGlobals.zero with supportsNativeFenceSync := true, supportsExplicitSync := true } =
      .ok (⟨true, true, 0, 0, 0, 3, 4, 0, 4, 5,
        [.bind 1 "zwp_linux_dmabuf_v1" 4 3, .bind 2 "wp_linux_drm_syncobj_manager_v1" 1 4,
          .getDefaultFeedback 3], 5⟩, true) ∧
    (1 = 1 ∧
      (DisplayGlobals.zero.supportsNativeFenceSync = true ∨
        (some ["EGL_ANDROID_native_fence_sync"]).any
          (wlEglFindExtension "EGL_ANDROID_native_fence_sync") = true) ∧
      (DisplayGlobals.zero.supportsExplicitSync = true ∨ explicitSyncDriver.FindsExplicitSync 3)) :=
  have hsync : initializeSyncSupport (some ["EGL_ANDROID_native_fence_sync"]) explicitSyncDriver 3
      .zero ⟨[], [], []⟩ =
      ({ DisplayGlobals.zero with supportsNativeFenceSync := true, supportsExplicitSync := true },
        ⟨[], [], [9]⟩) := rfl
  have hprot : initializeProtocols syncobjCompositor
      { DisplayGlobals.zero with supportsNativeFenceSync := true, supportsExplicitSync := true } =
      .ok (⟨true, true, 0, 0, 0, 3, 4, 0, 4, 5,
        [.bind 1 "zwp_linux_dmabuf_v1" 4 3, .bind 2 "wp_linux_drm_syncobj_manager_v1" 1 4,
          .getDefaultFeedback 3], 5⟩, true) := rfl
  ⟨hsync, hprot, syncobjManager_bound_after_probe hsync hprot
    (List.mem_cons_of_mem _ (List.mem_cons_self _ _)) (List.not_mem_nil _)⟩

end Display
end EglWayland
