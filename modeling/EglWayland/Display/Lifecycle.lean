import EglWayland.Display.Refcount

/-!
# Initialization counts over a display's life

`wlEglInitializeHook` and `wlEglTerminateHook` count the initializations of a display in
`initCount` when it was created with `EGL_TRACK_REFERENCES_KHR`, and `terminateDisplay`
tears the display down when the count leaves `1`.  This module proves that balance law
for every sequence of the two hooks on a display that some other reference keeps alive,
shows that a display fresh from `wlEglGetPlatformDisplayExport` is not kept alive (its
first hook frees it while it stays listed), and follows the unwind of an initialization
whose compositor steps fail.
-/

namespace EglWayland
namespace Display

open EglState

/-! # A driver that never fails -/

/-- Every `eglInitialize` and `eglTerminate` the driver is asked for succeeds. -/
structure DriverSucceeds (driver : Driver) : Prop where
  initializes : ∀ x, (driver.eglInitialize x).isSome
  terminates : ∀ x, driver.eglTerminate x = true

theorem wlInternalInitialize_of_succeeds {driver : Driver} (hdrv : DriverSucceeds driver)
    {s : EglState} {e : Nat} {dd : WlEglDeviceDpy} (he : e ≠ 0) (h : s.devDpys e = some dd) :
    ∃ dd', wlInternalInitialize driver s e =
        .ok ({ s with
          devDpys := Function.update s.devDpys e (some dd')
          effects := s.effects ++ if dd.initCount = 0 then [.eglInitialize dd.eglDisplay] else [] },
          true) ∧
      dd'.data = dd.data := by
  have hread := s.readDevDpy_of_live he h
  by_cases h0 : dd.initCount = 0
  · obtain ⟨⟨major, minor⟩, hinit⟩ := Option.isSome_iff_exists.1 (hdrv.initializes dd.eglDisplay)
    exact ⟨{ dd with initCount := 1, major := major, minor := minor },
      by simp [wlInternalInitialize, hread, h0, hinit, EglState.log, EglState.setDevDpy], rfl⟩
  · exact ⟨{ dd with initCount := dd.initCount + 1 },
      by simp [wlInternalInitialize, hread, h0, EglState.setDevDpy], rfl⟩

theorem wlInternalTerminate_of_succeeds {driver : Driver} (hdrv : DriverSucceeds driver)
    {s : EglState} {e : Nat} {dd : WlEglDeviceDpy} (he : e ≠ 0) (h : s.devDpys e = some dd) :
    ∃ dd', wlInternalTerminate driver s e =
        .ok ({ s with
          devDpys := Function.update s.devDpys e (some dd')
          effects := s.effects ++ if dd.initCount = 1 then [.eglTerminate dd.eglDisplay] else [] },
          true) ∧
      dd'.data = dd.data := by
  have hread := s.readDevDpy_of_live he h
  by_cases h0 : dd.initCount = 0
  · refine ⟨dd, ?_, rfl⟩
    rw [update_eq_self_of_eq h]
    simp [wlInternalTerminate, hread, h0]
  by_cases h1 : dd.initCount = 1
  · exact ⟨{ dd with initCount := 0 }, by
      simp [wlInternalTerminate, hread, h1, hdrv.terminates, EglState.log, EglState.setDevDpy], rfl⟩
  · exact ⟨{ dd with initCount := dd.initCount - 1 }, by
      simp [wlInternalTerminate, hread, h0, h1, EglState.setDevDpy], rfl⟩

/-!
# The balance law for one call

The initialize section, every compositor step succeeding, moves the count as the law says and
calls the driver only for the device's first initialization.  The terminate section moves the
count as the law says, and tears the display down (its surfaces, then its format set, feedback
and protocol objects) exactly when the count leaves `1`.
-/

/-- What the balance law asks of one call on a display whose reference counting flag is
`useInitRefCount` and whose count is `n`: an initialize counts one use more (without
reference counting the count is set to `1`), a terminate one use less, stopping at `0`
(without reference counting the count is cleared). -/
def balancedCount (useInitRefCount : Bool) : Hook → Nat → Nat
  | .initializeHook _, n => if useInitRefCount then n + 1 else 1
  | .terminateHook, n => if useInitRefCount then n - 1 else 0
  | .queryDisplayAttribHook _ _, n => n

theorem initializeBody_balanced {driver : Driver} (hdrv : DriverSucceeds driver) {s : EglState}
    {a : Nat} {d : WlEglDisplay} {dd : WlEglDeviceDpy} (ha : a ≠ 0) (hd : s.displays a = some d)
    (hdev : d.devDpy ≠ 0) (hdd : s.devDpys d.devDpy = some dd)
    (hu : d.useInitRefCount = false → d.initCount ≤ 1) :
    ∃ s' v, initializeBody driver true s a = .ok (s', true, some v) ∧
      s'.displays = Function.update s.displays a (some { d with
        initCount := balancedCount d.useInitRefCount (.initializeHook true) d.initCount }) ∧
      s'.wlEglDisplayList = s.wlEglDisplayList ∧
      (∃ dd', s'.devDpys d.devDpy = some dd' ∧ dd'.data = dd.data) ∧
      s'.effects = s.effects ++
        if d.initCount = 0 ∧ dd.initCount = 0 then [.eglInitialize dd.eglDisplay] else [] := by
  have hread := s.readDisplay_of_live ha hd
  by_cases h0 : d.initCount = 0
  · obtain ⟨dd', hinit, hdata⟩ := wlInternalInitialize_of_succeeds hdrv hdev hdd
    refine ⟨({ s with
        devDpys := Function.update s.devDpys d.devDpy (some dd')
        effects := s.effects ++ if dd.initCount = 0 then [Effect.eglInitialize dd.eglDisplay] else [] }
        ).setDisplay a { d with initCount := 1 }, (dd'.major, dd'.minor), ?_, ?_, rfl,
      ⟨dd', by simp, hdata⟩, by simp [h0]⟩
    · simp [initializeBody, hread, h0, hinit, EglState.readDevDpy, hdev]
    · cases d.useInitRefCount <;> simp [balancedCount, h0]
  · have hpos : 0 < d.initCount := Nat.pos_of_ne_zero h0
    have hdread := s.readDevDpy_of_live hdev hdd
    by_cases hu' : d.useInitRefCount = true
    · exact ⟨s.setDisplay a { d with initCount := d.initCount + 1 }, (dd.major, dd.minor),
        by simp [initializeBody, hread, hpos, hdread, hu'], by simp [balancedCount, hu'], rfl,
        ⟨dd, hdd, rfl⟩, by simp [h0]⟩
    · have h1 : d.initCount = 1 := by have := hu (by simpa using hu'); omega
      refine ⟨s, (dd.major, dd.minor), by simp [initializeBody, hread, hpos, hdread, hu'], ?_, rfl,
        ⟨dd, hdd, rfl⟩, by simp [h0]⟩
      rw [balancedCount, if_neg hu', ← h1]
      exact (update_eq_self_of_eq hd).symm

theorem terminateBody_balanced {driver : Driver} (hdrv : DriverSucceeds driver) {s : EglState}
    {a : Nat} {d : WlEglDisplay} {dd : WlEglDeviceDpy} (ha : a ≠ 0) (hd : s.displays a = some d)
    (hdev : d.devDpy ≠ 0) (hdd : s.devDpys d.devDpy = some dd)
    (hu : d.useInitRefCount = false → d.initCount ≤ 1) :
    ∃ s', terminateBody driver s a = .ok (s', true) ∧
      s'.displays = Function.update s.displays a (some { d with
        initCount := balancedCount d.useInitRefCount .terminateHook d.initCount }) ∧
      s'.wlEglDisplayList = s.wlEglDisplayList ∧
      (∃ dd', s'.devDpys d.devDpy = some dd' ∧ dd'.data = dd.data) ∧
      s'.effects = s.effects ++ if d.initCount = 1 then
        (if dd.initCount = 1 then [Effect.eglTerminate dd.eglDisplay] else []) ++
          [.destroyAllSurfaces a, .destroyDisplayObjects a] else [] := by
  have hread := s.readDisplay_of_live ha hd
  by_cases h0 : d.initCount = 0
  · refine ⟨s, by simp [terminateBody, terminateDisplay, hread, h0], ?_, rfl, ⟨dd, hdd, rfl⟩,
      by simp [h0]⟩
    have hzero : balancedCount d.useInitRefCount .terminateHook d.initCount = d.initCount := by
      cases d.useInitRefCount <;> simp [balancedCount, h0]
    rw [hzero]
    exact (update_eq_self_of_eq hd).symm
  by_cases h1 : d.initCount = 1
  · obtain ⟨dd', hterm, hdata⟩ := wlInternalTerminate_of_succeeds hdrv hdev hdd
    refine ⟨((({ s with
        devDpys := Function.update s.devDpys d.devDpy (some dd')
        effects := s.effects ++ if dd.initCount = 1 then [Effect.eglTerminate dd.eglDisplay] else [] }
        ).setDisplay a { d with initCount := 0 }).log (.destroyAllSurfaces a)).log
          (.destroyDisplayObjects a), by simp [terminateBody, terminateDisplay, hread, h1, hterm],
      ?_, rfl, ⟨dd', by simp, hdata⟩, by simp [h1, EglState.log]⟩
    cases d.useInitRefCount <;> simp [balancedCount, h1]
  · have hu' : d.useInitRefCount = true := by
      by_contra hne
      have := hu (by simpa using hne)
      omega
    refine ⟨s.setDisplay a { d with initCount := d.initCount - 1 }, ?_, by simp [balancedCount, hu'],
      rfl, ⟨dd, hdd, rfl⟩, by simp [h1]⟩
    have hgt : 1 < d.initCount := by omega
    simp [terminateBody, terminateDisplay, hread, h0, hgt]

/-!
# Hooks on a display another reference keeps alive

A hook's acquire takes a reference, the section runs, and the release drops the reference again,
freeing the display when no other reference is left.  With another reference held and every
driver and compositor call succeeding, a hook moves the count as the law says, keeps the
display's other fields, and tears it down exactly when the count goes from `1` to `0`.
-/

theorem runHook_eq {β : Type} {fallback : β}
    {body : EglState → Nat → Except Fault (EglState × β)} {s s₁ : EglState} {a : Nat}
    {d d₁ : WlEglDisplay} {r : β}
    (hlive : ∀ b ∈ s.wlEglDisplayList, b ≠ 0 ∧ ∃ d, s.displays b = some d)
    (ha : a ∈ s.wlEglDisplayList) (hd : s.displays a = some d)
    (hbody : body (s.setDisplay a { d with refCount := d.refCount + 1 }) a = .ok (s₁, r))
    (hd₁ : s₁.displays a = some d₁) (hr₁ : d₁.refCount = d.refCount + 1) :
    runHook fallback body s a = .ok (if d.refCount = 0 then
        { s₁.log (.close d₁.drmFd) with displays := Function.update s₁.displays a none }
      else s₁.setDisplay a { d₁ with refCount := d.refCount }, r) := by
  have ha0 := (hlive a ha).1
  rcases wlEglAcquireDisplay_live a hlive with ⟨d', -, hd', hacq⟩ | ⟨hna, -⟩
  · obtain rfl : d = d' := Option.some.inj (hd.symm.trans hd')
    have hrel : wlEglReleaseDisplay s₁ a = .ok (if d.refCount = 0 then
        { s₁.log (.close d₁.drmFd) with displays := Function.update s₁.displays a none }
        else s₁.setDisplay a { d₁ with refCount := d.refCount }) := by
      by_cases hne : d.refCount = 0 <;>
        simp [wlEglReleaseDisplay, wlEglUnrefDisplay, s₁.readDisplay_of_live ha0 hd₁, hr₁, hne]
    simp [runHook, hacq, ha0, hbody, hrel]
  · exact absurd ha hna

theorem body_balanced {driver : Driver} (hdrv : DriverSucceeds driver) {s : EglState}
    {a : Nat} {d : WlEglDisplay} {dd : WlEglDeviceDpy} {h : Hook}
    (hh : h = .initializeHook true ∨ h = .terminateHook) (ha : a ≠ 0) (hd : s.displays a = some d)
    (hdev : d.devDpy ≠ 0) (hdd : s.devDpys d.devDpy = some dd)
    (hu : d.useInitRefCount = false → d.initCount ≤ 1) :
    ∃ s' r es, h.body driver s a = .ok (s', r) ∧
      s'.displays = Function.update s.displays a (some { d with
        initCount := balancedCount d.useInitRefCount h d.initCount }) ∧
      s'.wlEglDisplayList = s.wlEglDisplayList ∧
      (∃ dd', s'.devDpys d.devDpy = some dd' ∧ dd'.data = dd.data) ∧
      s'.effects = s.effects ++ es ∧
      es.count (.destroyAllSurfaces a) =
        (if d.initCount = 1 ∧ balancedCount d.useInitRefCount h d.initCount = 0 then 1 else 0) ∧
      es.count (.destroyDisplayObjects a) =
        (if d.initCount = 1 ∧ balancedCount d.useInitRefCount h d.initCount = 0 then 1 else 0) := by
  rcases hh with rfl | rfl
  · obtain ⟨s', v, hbody, hdisp, hlist, hdev', heff⟩ := initializeBody_balanced hdrv ha hd hdev hdd hu
    have hpos : balancedCount d.useInitRefCount (.initializeHook true) d.initCount ≠ 0 := by
      cases d.useInitRefCount <;> simp [balancedCount]
    refine ⟨s', true, _, by simp [Hook.body, hbody, Except.map], hdisp, hlist, hdev', heff, ?_, ?_⟩ <;>
      simp only [hpos, and_false, if_false] <;> split_ifs <;> simp
  · obtain ⟨s', hbody, hdisp, hlist, hdev', heff⟩ := terminateBody_balanced hdrv ha hd hdev hdd hu
    refine ⟨s', true, _, hbody, hdisp, hlist, hdev', heff, ?_, ?_⟩ <;> by_cases h1 : d.initCount = 1 <;>
      cases d.useInitRefCount <;> simp [h1, balancedCount] <;> split_ifs <;> simp

theorem callHook_balanced {driver : Driver} (hdrv : DriverSucceeds driver) {s : EglState}
    {a : Nat} {d : WlEglDisplay} {dd : WlEglDeviceDpy} {h : Hook}
    (hh : h = .initializeHook true ∨ h = .terminateHook)
    (hlive : ∀ b ∈ s.wlEglDisplayList, b ≠ 0 ∧ ∃ d, s.displays b = some d)
    (ha : a ∈ s.wlEglDisplayList) (hd : s.displays a = some d) (hr : 1 ≤ d.refCount)
    (hdev : d.devDpy ≠ 0) (hdd : s.devDpys d.devDpy = some dd)
    (hu : d.useInitRefCount = false → d.initCount ≤ 1) :
    ∃ s' r es, runHook false (h.body driver) s a = .ok (s', r) ∧
      s'.displays = Function.update s.displays a (some { d with
        initCount := balancedCount d.useInitRefCount h d.initCount }) ∧
      s'.wlEglDisplayList = s.wlEglDisplayList ∧
      (∃ dd', s'.devDpys d.devDpy = some dd' ∧ dd'.data = dd.data) ∧
      s'.effects = s.effects ++ es ∧
      es.count (.destroyAllSurfaces a) =
        (if d.initCount = 1 ∧ balancedCount d.useInitRefCount h d.initCount = 0 then 1 else 0) ∧
      es.count (.destroyDisplayObjects a) =
        (if d.initCount = 1 ∧ balancedCount d.useInitRefCount h d.initCount = 0 then 1 else 0) := by
  have ha0 := (hlive a ha).1
  obtain ⟨s₁, r, es, hbody, hdisp, hlist, hdev', heff, hsurf, hobj⟩ :=
    @body_balanced driver hdrv (s.setDisplay a { d with refCount := d.refCount + 1 }) a
      { d with refCount := d.refCount + 1 } dd h hh ha0 (by simp) hdev (by simpa using hdd) hu
  have hrun := @runHook_eq Bool false _ s s₁ a d
    { d with refCount := d.refCount + 1, initCount := balancedCount d.useInitRefCount h d.initCount }
    r hlive ha hd hbody (by simp [hdisp]) rfl
  rw [if_neg (by omega)] at hrun
  refine ⟨_, r, es, hrun, by simp [hdisp], by simp [hlist], ?_, by simp [heff], hsurf, hobj⟩
  simpa using hdev'

theorem listedLive_of_update {s s' : EglState} {a : Nat} {d' : WlEglDisplay}
    (hlive : ∀ b ∈ s.wlEglDisplayList, b ≠ 0 ∧ ∃ d, s.displays b = some d)
    (hdisp : s'.displays = Function.update s.displays a (some d'))
    (hlist : s'.wlEglDisplayList = s.wlEglDisplayList) :
    ∀ b ∈ s'.wlEglDisplayList, b ≠ 0 ∧ ∃ d, s'.displays b = some d := by
  intro b hb
  rw [hlist] at hb
  refine ⟨(hlive b hb).1, ?_⟩
  by_cases hba : b = a
  · exact ⟨d', by rw [hdisp, hba, Function.update_same]⟩
  · simpa [hdisp, hba] using (hlive b hb).2

/-!
# Sequences of hooks

`lawTeardowns` counts the calls of a sequence that take the count from `1` to `0` by the law.
-/

/-- One thread calling hooks on display `dpy`, one after another. -/
def callHooks (driver : Driver) (dpy : Nat) : EglState → List Hook → Except Fault EglState
  | s, [] => .ok s
  | s, h :: rest => do
      let (s, _) ← runHook false (h.body driver) s dpy
      callHooks driver dpy s rest

/-- Platform data `9` with display `1`, created with `EGL_TRACK_REFERENCES_KHR` and not yet
initialized, which another thread holds, on the entry `2` of its device. -/
def trackedHeld : EglState where
  displays := fun a => if a = 1 then some ⟨9, 100, true, true, 0, 2, 0, 1, 3⟩ else none
  wlEglDisplayList := [1]
  devDpys := fun e => if e = 2 then some ⟨50, 0, 9, 0, 0, 0, 226, 128⟩ else none
  deviceDpyList := fun p => if p = 9 then [2] else []
  supportsDisplayReference := fun _ => true
  nextAddr := 3
  effects := []

theorem workingDriver_succeeds : DriverSucceeds workingDriver :=
  ⟨fun _ => rfl, fun _ => rfl⟩

/-!
# A display nothing else holds

On a list of non-null addresses holding `a`, the walk either reaches `a` or reads a freed
display first; so a hook on a listed display that has been freed reads freed memory.
-/

theorem isListed_eq_ok_false {s : EglState} {a : Nat} :
    ∀ {l : List Nat}, isListed s a l = .ok false → a ∉ l
  | [], _ => List.not_mem_nil a
  | b :: rest, h => by
      by_cases hba : b = a
      · simp [isListed, hba] at h
      · obtain ⟨_, -, h⟩ := except_bind_eq_ok.1 (show _ from by simpa [isListed, hba] using h)
        exact fun hm => isListed_eq_ok_false h (List.mem_of_ne_of_mem (Ne.symm hba) hm)

theorem isListed_of_mem {s : EglState} {a : Nat} :
    ∀ {l : List Nat}, a ∈ l → (∀ b ∈ l, b ≠ 0) →
      isListed s a l = .ok true ∨ isListed s a l = .error .useAfterFree
  | [], h, _ => absurd h (List.not_mem_nil a)
  | b :: rest, h, h0 => by
      have hb0 := h0 b (List.mem_cons_self b rest)
      by_cases hba : b = a
      · simp [isListed, hba]
      rcases hb : s.displays b with _ | db
      · simp [isListed, hba, EglState.readDisplay, hb0, hb]
      · have ih := @isListed_of_mem s a rest (List.mem_of_ne_of_mem (Ne.symm hba) h)
          fun c hc => h0 c (List.mem_cons_of_mem b hc)
        simpa [isListed, hba, EglState.readDisplay, hb0, hb] using ih

/-- A hook on a listed display whose count is `0`, whatever its section does (short of
moving a reference): the release frees the display, which stays listed. -/
theorem runHook_frees_unheld {β : Type} {fallback : β}
    {body : EglState → Nat → Except Fault (EglState × β)} {a : Nat}
    (hbody : ∀ s₁ s₂ r, body s₁ a = .ok (s₂, r) → SectionFrame s₁ s₂) {s s' : EglState}
    {d : WlEglDisplay} {r : β} (ha : a ∈ s.wlEglDisplayList) (hd : s.displays a = some d)
    (hr : d.refCount = 0) (h : runHook fallback body s a = .ok (s', r)) :
    s'.wlEglDisplayList = s.wlEglDisplayList ∧ s'.displays a = none := by
  obtain ⟨⟨s₁, a₁⟩, hacq, h⟩ := except_bind_eq_ok.1 h
  obtain ⟨listed, hwalk, hacq⟩ := except_bind_eq_ok.1 hacq
  cases listed
  · exact absurd ha (isListed_eq_ok_false hwalk)
  obtain ⟨d', hread, hacq⟩ := except_bind_eq_ok.1 hacq
  obtain ⟨ha0, hd'⟩ := s.readDisplay_eq_ok.1 hread
  obtain rfl : d = d' := Option.some.inj (hd.symm.trans hd')
  obtain ⟨rfl, rfl⟩ : s.setDisplay a { d with refCount := d.refCount + 1 } = s₁ ∧ a = a₁ := by
    simpa using hacq
  simp only [ha0, ↓reduceIte] at h
  obtain ⟨⟨s₂, r₂⟩, hb, h⟩ := except_bind_eq_ok.1 h
  obtain ⟨s₃, hrel, h⟩ := except_bind_eq_ok.1 h
  obtain ⟨rfl, -⟩ : s₃ = s' ∧ r₂ = r := by simpa using h
  have hf := hbody _ _ _ hb
  obtain ⟨d₂, hd₂, hkey⟩ := map_eq_some_of_map_eq (hf.displays a)
    (show (s.setDisplay a { d with refCount := d.refCount + 1 }).displays a =
      some { d with refCount := d.refCount + 1 } by simp)
  obtain ⟨d₃, -, hd₃, hdisp, hlist, -⟩ := wlEglUnrefDisplay_spec hrel
  obtain rfl : d₂ = d₃ := Option.some.inj (hd₂.symm.trans hd₃)
  have hrc : d₂.refCount = d.refCount + 1 := by simp at hkey; exact hkey.2.2
  refine ⟨by rw [hlist, hf.list]; rfl, ?_⟩
  rw [hdisp, Function.update_same, unreffed, if_pos (by omega)]

theorem runHook_of_freed {β : Type} {fallback : β}
    {body : EglState → Nat → Except Fault (EglState × β)} {s : EglState} {a : Nat}
    (ha : a ∈ s.wlEglDisplayList) (h0 : ∀ b ∈ s.wlEglDisplayList, b ≠ 0)
    (hfree : s.displays a = none) : runHook fallback body s a = .error .useAfterFree := by
  have hread : s.readDisplay a = .error .useAfterFree := by
    simp [EglState.readDisplay, h0 a ha, hfree]
  rcases @isListed_of_mem s a _ ha h0 with hwalk | hwalk <;>
    simp [runHook, wlEglAcquireDisplay, wlEglIsWlEglDisplay, hwalk, hread]

/-!
# Hooks on a display fresh from creation

The default connection's display, created in a fresh process and initialized once, is freed by
that initialization.
-/

/-- A display `wlEglGetPlatformDisplayExport` creates holds no reference for its place in
the directory: the first initialize hook on it frees it while it stays listed, and every
initialize or terminate hook after that reads the freed display. -/
theorem initializeHook_frees_created_display {env : CreateEnv} {driver : Driver}
    {s s₁ s₂ : EglState} {data nativeDpy a : Nat} {attribs : Option (List (Int × Int))}
    {ok : Bool} {r : Bool × Option (Int × Int)} (h0 : ∀ b ∈ s.wlEglDisplayList, b ≠ 0)
    (hcreate : wlEglGetPlatformDisplayExport env s data eglPlatformWaylandExt nativeDpy attribs =
      .ok (s₁, a))
    (ha : a ≠ 0) (hnew : a ∉ s.wlEglDisplayList)
    (hinit : wlEglInitializeHook driver ok s₁ a = .ok (s₂, r)) :
    a ∈ s₂.wlEglDisplayList ∧ s₂.displays a = none ∧
      (∀ driver' ok', wlEglInitializeHook driver' ok' s₂ a = .error .useAfterFree) ∧
      ∀ driver', wlEglTerminateHook driver' s₂ a = .error .useAfterFree := by
  rcases wlEglGetPlatformDisplayExport_cases hcreate with ⟨-, h | h⟩ | ⟨u, dev, -, hc⟩
  · exact absurd h ha
  · exact absurd h hnew
  rcases createDisplay_spec hc with ⟨h, -⟩ | ⟨rfl, hlist, -, d, -, hdisp, hkey, -⟩
  · exact absurd h ha
  have hmem : s.nextAddr ∈ s₁.wlEglDisplayList := by simp [hlist]
  obtain ⟨hlist₂, hfree⟩ := runHook_frees_unheld (fun _ _ _ h => initializeBody_sectionFrame h)
    hmem (by simp [hdisp]) hkey.refCount hinit
  have hmem₂ : s.nextAddr ∈ s₂.wlEglDisplayList := hlist₂ ▸ hmem
  have h0₂ : ∀ b ∈ s₂.wlEglDisplayList, b ≠ 0 := fun b hb => by
    rw [hlist₂, hlist] at hb
    rcases List.mem_cons.1 hb with rfl | hb
    · exact ha
    · exact h0 b hb
  exact ⟨hmem₂, hfree, fun _ _ => runHook_of_freed hmem₂ h0₂ hfree,
    fun _ => runHook_of_freed hmem₂ h0₂ hfree⟩

theorem createDefault_freed_by_initialize :
    ∃ s₁ s₂ r, wlEglGetPlatformDisplayExport workingCompositor (.init fun _ => true) 9
        eglPlatformWaylandExt 0 none = .ok (s₁, 1) ∧
      wlEglInitializeHook workingDriver true s₁ 1 = .ok (s₂, r) ∧
      1 ∈ s₂.wlEglDisplayList ∧ s₂.displays 1 = none ∧
      (∀ driver' ok', wlEglInitializeHook driver' ok' s₂ 1 = .error .useAfterFree) ∧
      ∀ driver', wlEglTerminateHook driver' s₂ 1 = .error .useAfterFree :=
  ⟨_, _, _, rfl, rfl, @initializeHook_frees_created_display workingCompositor workingDriver
    (.init fun _ => true) _ _ 9 0 1 none true _ (by simp [EglState.init]) rfl (by decide)
    (by simp [EglState.init]) rfl⟩

/-!
# An initialization that fails

`failingTerminate` is `workingDriver` whose `eglTerminate` fails.  On the held display of
`trackedHeld`, with a compositor step failing, the first initialization leaves device entry `2`
at `0`, as it was before.
-/

/-- An initialization of a display whose count is `0`, on a device nothing has initialized
yet, where the driver's `eglInitialize` succeeds, a compositor step fails, and the unwind's
`eglTerminate` fails too: the hook returns `EGL_FALSE`, yet the device entry counts one
initialization, and the display keeps the count `1` unless the release freed it. -/
theorem initializeHook_failed_unwind_keeps_counts {driver : Driver} {s : EglState} {a : Nat}
    {d : WlEglDisplay} {dd : WlEglDeviceDpy} {v : Int × Int}
    (hlive : ∀ b ∈ s.wlEglDisplayList, b ≠ 0 ∧ ∃ d, s.displays b = some d)
    (ha : a ∈ s.wlEglDisplayList) (hd : s.displays a = some d) (h0 : d.initCount = 0)
    (hdev : d.devDpy ≠ 0) (hdd : s.devDpys d.devDpy = some dd) (hdd0 : dd.initCount = 0)
    (hinit : driver.eglInitialize dd.eglDisplay = some v)
    (hterm : driver.eglTerminate dd.eglDisplay = false) :
    ∃ s', wlEglInitializeHook driver false s a = .ok (s', false, none) ∧
      (s'.devDpys d.devDpy).map (·.initCount) = some 1 ∧
      (s'.displays a).map (·.initCount) = if d.refCount = 0 then none else some 1 := by
  have ha0 := (hlive a ha).1
  set d₀ := { d with refCount := d.refCount + 1 }
  set dd₁ := { dd with initCount := 1, major := v.1, minor := v.2 }
  set s₀ := s.setDisplay a d₀
  -- the section: the driver initializes the device, a compositor step fails, and the
  -- unwind's `eglTerminate` fails, which leaves both counts at `1`
  have hbody : initializeBody driver false s₀ a = .ok (((((s₀.log (.eglInitialize dd.eglDisplay)
      ).setDevDpy d.devDpy dd₁).setDisplay a { d₀ with initCount := 1 }).log
        (.eglTerminate dd.eglDisplay)).setError eglBadAlloc, false, none) := by
    simp [initializeBody, wlInternalInitialize, terminateDisplay, wlInternalTerminate, s₀, d₀, dd₁,
      EglState.readDisplay, EglState.readDevDpy, ha0, hdev, hdd, h0, hdd0, hinit, hterm,
      EglState.log, EglState.setError, EglState.setDisplay, EglState.setDevDpy]
  have hrun := @runHook_eq (Bool × Option (Int × Int)) (false, none) _ s _ a d
    { d₀ with initCount := 1 } (false, none) hlive ha hd hbody (by simp [EglState.setError]) rfl
  refine ⟨_, hrun, ?_, ?_⟩ <;> by_cases hr : d.refCount = 0 <;>
    simp [hr, dd₁, EglState.setError, EglState.log]

def failingTerminate : Driver := { workingDriver with eglTerminate := fun _ => false }

theorem trackedHeld_failed_initialize :
    ∃ s', wlEglInitializeHook failingTerminate false trackedHeld 1 = .ok (s', false, none) ∧
      (s'.devDpys 2).map (·.initCount) = some 1 ∧ (s'.displays 1).map (·.initCount) = some 1 := by
  obtain ⟨s', h, hdev, hdisp⟩ := @initializeHook_failed_unwind_keeps_counts failingTerminate
    trackedHeld 1 ⟨9, 100, true, true, 0, 2, 0, 1, 3⟩ ⟨50, 0, 9, 0, 0, 0, 226, 128⟩ (1, 5)
    (by simp [trackedHeld]) (by simp [trackedHeld]) rfl rfl (by decide) rfl rfl rfl rfl
  exact ⟨s', h, hdev, by simpa using hdisp⟩

end Display
end EglWayland
