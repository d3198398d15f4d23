import EglWayland.Display.Threads
import Mathlib.Data.List.Nodup

/-!
# Global teardown

`wlEglDestroyAllDisplays(data)` walks `wlEglDisplayList` and, for each display of `data`,
force-terminates it, clears its `devDpy`, unlinks it and drops the directory's reference;
it then frees every entry of `data`'s device registry, terminating those still
initialized.  This module proves what the whole call does on any directory and registries
that are well formed: which displays leave the list, what the survivors look like, which
driver calls the registry phase makes, and that no other platform data's registry moves.
-/

namespace EglWayland
namespace Display

open EglState

/-!
# Well-formed process state

`EglState.ownedBy` says whether an address holds a live display of platform data `data`, and
`Cleared` is what global teardown may leave at a display's address: nothing, or a display that
is not initialized and has no device.
-/

def EglState.ownedBy (s : EglState) (data a : Nat) : Bool :=
  match s.displays a with
  | some d => d.data == data
  | none => false

/-- The shape the linked lists and pointers of the two files give the state: listed
displays are live and linked once, an initialized one points at a live entry of its own
platform data, and each registry links live entries of its platform data once. -/
structure WellFormed (s : EglState) : Prop where
  listed_live : ∀ a ∈ s.wlEglDisplayList, a ≠ 0 ∧ ∃ d, s.displays a = some d
  devDpy_live : ∀ a ∈ s.wlEglDisplayList, ∀ d, s.displays a = some d → 0 < d.initCount →
    d.devDpy ≠ 0 ∧ ∃ dd, s.devDpys d.devDpy = some dd ∧ dd.data = d.data
  nodup : s.wlEglDisplayList.Nodup
  entries_live : ∀ data, ∀ e ∈ s.deviceDpyList data, e ≠ 0 ∧ ∃ dd, s.devDpys e = some dd ∧ dd.data = data
  entries_nodup : ∀ data, (s.deviceDpyList data).Nodup

/-- The registry heap after part of the teardown of platform data `P`: entries of other
platform data are untouched, and a live entry stays live with its platform data. -/
structure EntriesKept (P : Nat) (devDpys devDpys' : Nat → Option WlEglDeviceDpy) : Prop where
  other : ∀ e, (∀ dd, devDpys e = some dd → dd.data ≠ P) → devDpys' e = devDpys e
  live : ∀ e dd, devDpys e = some dd → ∃ dd', devDpys' e = some dd' ∧ dd'.data = dd.data

theorem EntriesKept.refl (P : Nat) (devDpys : Nat → Option WlEglDeviceDpy) :
    EntriesKept P devDpys devDpys :=
  ⟨fun _ _ => rfl, fun _ dd h => ⟨dd, h, rfl⟩⟩

theorem EntriesKept.trans {P : Nat} {f g h : Nat → Option WlEglDeviceDpy}
    (h₁ : EntriesKept P f g) (h₂ : EntriesKept P g h) : EntriesKept P f h := by
  refine ⟨fun e he => ?_, fun e dd hf => ?_⟩
  · have hg := h₁.other e he
    rw [h₂.other e (by rwa [hg]), hg]
  · obtain ⟨dd', hg, hd'⟩ := h₁.live e dd hf
    obtain ⟨dd'', hh, hd''⟩ := h₂.live e dd' hg
    exact ⟨dd'', hh, hd''.trans hd'⟩

theorem entriesKept_update {P e : Nat} {devDpys : Nat → Option WlEglDeviceDpy}
    {dd dd' : WlEglDeviceDpy} (h : devDpys e = some dd) (hP : dd.data = P)
    (hd : dd'.data = dd.data) : EntriesKept P devDpys (Function.update devDpys e (some dd')) := by
  refine ⟨fun e' he' => ?_, fun e' dd'' h' => ?_⟩
  · by_cases hee : e' = e
    · subst hee
      exact absurd hP (he' dd h)
    · exact Function.update_noteq hee _ _
  · by_cases hee : e' = e
    · subst hee
      rw [h] at h'
      cases h'
      exact ⟨dd', by simp, hd⟩
    · exact ⟨dd'', by rw [Function.update_noteq hee, h'], rfl⟩

def Cleared (v : Option WlEglDisplay) : Prop :=
  ∀ d, v = some d → d.initCount = 0 ∧ d.devDpy = 0

/-- What global teardown leaves at the address of display `d`: `d` terminated and without
device, after the directory's reference is dropped. -/
def tornDown (d : WlEglDisplay) : Option WlEglDisplay :=
  unreffed { d with initCount := 0, devDpy := 0 }

theorem cleared_bind_tornDown (v : Option WlEglDisplay) : Cleared (v.bind tornDown) := by
  intro d' hd'
  obtain ⟨d, -, hd⟩ := Option.bind_eq_some.1 hd'
  obtain ⟨-, rfl⟩ := unreffed_eq_some.1 hd
  exact ⟨rfl, rfl⟩

/-!
# One display

Under global teardown `terminateDisplay` succeeds and leaves `initCount = 0`; besides the display
it touches only the registry entry it points at.  So one display of the platform data leaves the
list, and what remains at its address is `tornDown d`.
-/

theorem wlInternalTerminate_spec (driver : Driver) {s : EglState} {e : Nat} {dd : WlEglDeviceDpy}
    (he : e ≠ 0) (h : s.devDpys e = some dd) :
    ∃ dd' es ok, wlInternalTerminate driver s e =
        .ok ({ s with
          devDpys := Function.update s.devDpys e (some dd')
          effects := s.effects ++ es }, ok) ∧
      dd'.data = dd.data ∧ dd'.eglDisplay = dd.eglDisplay := by
  have hread := s.readDevDpy_of_live he h
  by_cases h0 : dd.initCount = 0
  · refine ⟨dd, [], true, ?_, rfl, rfl⟩
    rw [update_eq_self_of_eq h]
    simp [wlInternalTerminate, hread, h0]
  by_cases h1 : dd.initCount = 1
  · cases ht : driver.eglTerminate dd.eglDisplay
    · refine ⟨dd, [.eglTerminate dd.eglDisplay], false, ?_, rfl, rfl⟩
      rw [update_eq_self_of_eq h]
      simp [wlInternalTerminate, hread, h1, ht, EglState.log]
    · refine ⟨{ dd with initCount := 0 }, [.eglTerminate dd.eglDisplay], true, ?_, rfl, rfl⟩
      simp [wlInternalTerminate, hread, h1, ht, EglState.log, EglState.setDevDpy]
  · refine ⟨{ dd with initCount := dd.initCount - 1 }, [], true, ?_, rfl, rfl⟩
    simp [wlInternalTerminate, hread, h0, h1, EglState.setDevDpy]

theorem terminateDisplay_global_spec (driver : Driver) {s : EglState} {a : Nat}
    {d : WlEglDisplay} (ha : a ≠ 0) (h : s.displays a = some d)
    (hdev : 0 < d.initCount →
      d.devDpy ≠ 0 ∧ ∃ dd, s.devDpys d.devDpy = some dd ∧ dd.data = d.data) :
    ∃ devDpys es, terminateDisplay driver s a true =
        .ok ({ s with
          displays := Function.update s.displays a (some { d with initCount := 0 })
          devDpys := devDpys
          effects := s.effects ++ es }, true) ∧
      EntriesKept d.data s.devDpys devDpys := by
  have hread := s.readDisplay_of_live ha h
  by_cases h0 : d.initCount = 0
  · refine ⟨s.devDpys, [], ?_, .refl _ _⟩
    have hd : { d with initCount := 0 } = d := by rw [← h0]
    rw [hd, update_eq_self_of_eq h]
    simp [terminateDisplay, hread, h0]
  · obtain ⟨hne, dd, hdd, hdata⟩ := hdev (Nat.pos_of_ne_zero h0)
    obtain ⟨dd', es, ok, hterm, hdata', -⟩ := wlInternalTerminate_spec driver hne hdd
    refine ⟨Function.update s.devDpys d.devDpy (some dd'),
      es ++ .destroyAllSurfaces a :: if d.ownNativeDpy then [.destroyDisplayObjects a] else [], ?_,
      entriesKept_update hdd hdata hdata'⟩
    cases hown : d.ownNativeDpy <;>
      simp [terminateDisplay, hread, h0, hterm, hown, EglState.setDisplay, EglState.log]

theorem destroyDisplay_spec (driver : Driver) {s : EglState} {a : Nat} {d : WlEglDisplay}
    (ha : a ≠ 0) (h : s.displays a = some d)
    (hdev : 0 < d.initCount →
      d.devDpy ≠ 0 ∧ ∃ dd, s.devDpys d.devDpy = some dd ∧ dd.data = d.data) :
    ∃ devDpys es, destroyDisplay driver s a d =
        .ok ({ s with
          displays := Function.update s.displays a (tornDown d)
          wlEglDisplayList := s.wlEglDisplayList.erase a
          devDpys := devDpys
          effects := s.effects ++ es }, true) ∧
      EntriesKept d.data s.devDpys devDpys := by
  obtain ⟨devDpys, es, hterm, hkept⟩ := terminateDisplay_global_spec driver ha h hdev
  refine ⟨devDpys, es ++ (if d.ownNativeDpy then [.displayDisconnect d.nativeDpy] else []) ++
    (if d.refCount - 1 = 0 then [.close d.drmFd] else []), ?_, hkept⟩
  by_cases hrc : d.refCount - 1 = 0 <;> cases hown : d.ownNativeDpy <;>
    simp [destroyDisplay, hterm, hown, hrc, tornDown, unreffed, EglState.readDisplay, ha,
      wlEglUnrefDisplay, EglState.setDisplay, EglState.log]

/-!
# The display loop

`LoopReady` is what the display loop needs of each display it has still to visit.
-/

theorem ownedBy_congr {s s' : EglState} {P b : Nat} (h : s'.displays b = s.displays b) :
    s'.ownedBy P b = s.ownedBy P b := by
  simp [EglState.ownedBy, h]

def LoopReady (s : EglState) (P : Nat) (l : List Nat) : Prop :=
  ∀ a ∈ l, a ≠ 0 ∧ ∃ d, s.displays a = some d ∧ (d.data = P → 0 < d.initCount →
    d.devDpy ≠ 0 ∧ ∃ dd, s.devDpys d.devDpy = some dd ∧ dd.data = P)

theorem LoopReady.of_frame {s s' : EglState} {P : Nat} {l : List Nat} (h : LoopReady s P l)
    (hdisp : ∀ b ∈ l, s'.displays b = s.displays b) (hkept : EntriesKept P s.devDpys s'.devDpys) :
    LoopReady s' P l := by
  intro b hb
  obtain ⟨hb0, d, hd, hdev⟩ := h b hb
  refine ⟨hb0, d, (hdisp b hb).trans hd, fun hP hi => ?_⟩
  obtain ⟨hne, dd, hdd, hdata⟩ := hdev hP hi
  obtain ⟨dd', hdd', hdata'⟩ := hkept.live _ dd hdd
  exact ⟨hne, dd', hdd', hdata'.trans hdata⟩

theorem WellFormed.loopReady {s : EglState} (hwf : WellFormed s) (P : Nat) :
    LoopReady s P s.wlEglDisplayList := fun a ha => by
  obtain ⟨ha0, d, hd⟩ := hwf.listed_live a ha
  refine ⟨ha0, d, hd, fun hP hi => ?_⟩
  obtain ⟨hne, dd, hdd, hdata⟩ := hwf.devDpy_live a ha d hd hi
  exact ⟨hne, dd, hdd, hdata.trans hP⟩

/-- The display loop over a list of distinct live displays: the displays of `P` among them
leave the directory and are torn down, every other display is untouched, and of the
registry only entries of `P` may change. -/
theorem destroyAllLoop_spec (driver : Driver) (P : Nat) (l : List Nat) :
    ∀ (s : EglState) (res : Bool), l.Nodup → LoopReady s P l →
    ∃ s' res', destroyAllLoop driver P (s, res) l = .ok (s', res') ∧
      s'.wlEglDisplayList = s.wlEglDisplayList.diff (l.filter (s.ownedBy P)) ∧
      (∀ a, (a ∈ l → s.ownedBy P a = false) → s'.displays a = s.displays a) ∧
      (∀ a ∈ l, s.ownedBy P a = true → s'.displays a = (s.displays a).bind tornDown) ∧
      s'.deviceDpyList = s.deviceDpyList ∧ EntriesKept P s.devDpys s'.devDpys ∧
      s'.nextAddr = s.nextAddr := by
  induction l with
  | nil => exact fun s res _ _ => ⟨s, res, rfl, by simp, fun _ _ => rfl, by simp, rfl, .refl _ _, rfl⟩
  | cons a rest ih =>
      intro s res hnd hready
      obtain ⟨ha, d, hd, hdev⟩ := hready a (List.mem_cons_self a rest)
      obtain ⟨hrest, hnd'⟩ := List.nodup_cons.1 hnd
      have hread := s.readDisplay_of_live ha hd
      have hready' : LoopReady s P rest := fun b hb => hready b (List.mem_cons_of_mem a hb)
      by_cases hP : d.data = P
      · have howned : s.ownedBy P a = true := by simp [EglState.ownedBy, hd, hP]
        obtain ⟨devDpys, es, hdestroy, hkept⟩ :=
          destroyDisplay_spec driver ha hd (by rw [hP]; exact hdev hP)
        rw [hP] at hkept
        set s₁ : EglState := { s with
          displays := Function.update s.displays a (tornDown d)
          wlEglDisplayList := s.wlEglDisplayList.erase a
          devDpys := devDpys
          effects := s.effects ++ es }
        have hdisp : ∀ b, b ≠ a → s₁.displays b = s.displays b :=
          fun b hb => Function.update_noteq hb _ _
        have hne : ∀ b ∈ rest, b ≠ a := fun b hb hba => hrest (hba ▸ hb)
        have hown : ∀ b ∈ rest, s₁.ownedBy P b = s.ownedBy P b :=
          fun b hb => ownedBy_congr (hdisp b (hne b hb))
        obtain ⟨s', res', hloop, hlist, hframe, hclear, hreg, hkept', hnext⟩ :=
          ih s₁ res hnd' (hready'.of_frame (fun b hb => hdisp b (hne b hb)) hkept)
        refine ⟨s', res', ?_, ?_, fun b hb => ?_, fun b hb hbo => ?_, hreg, hkept.trans hkept',
          hnext⟩
        · simp [destroyAllLoop, hread, hP, hdestroy, hloop]
        · rw [hlist, List.filter_congr hown, List.filter_cons_of_pos howned, List.diff_cons]
        · have hba : b ≠ a := fun h => by simp [h, howned] at hb
          rw [hframe b fun hr => (hown b hr).trans (hb (List.mem_cons_of_mem a hr)),
            hdisp b hba]
        · rcases List.mem_cons.1 hb with rfl | hr
          · rw [hframe b fun hr => absurd hr hrest]
            simp [s₁, hd]
          · rw [hclear b hr ((hown b hr).trans hbo), hdisp b (hne b hr)]
      · have hnot : s.ownedBy P a = false := by simp [EglState.ownedBy, hd, hP]
        obtain ⟨s', res', hloop, hlist, hframe, hclear, hreg, hkept', hnext⟩ :=
          ih s res hnd' hready'
        refine ⟨s', res', ?_, ?_, fun b hb => hframe b fun hr => hb (List.mem_cons_of_mem a hr),
          fun b hb hbo => ?_, hreg, hkept', hnext⟩
        · simp [destroyAllLoop, hread, hP, hloop]
        · rw [hlist, List.filter_cons_of_neg (by simp [hnot])]
        · rcases List.mem_cons.1 hb with rfl | hr
          · simp [hnot] at hbo
          · exact hclear b hr hbo

/-!
# The registry phase

Whatever it meets, the registry loop touches no display.
-/

/-- The driver calls `wlFreeAllInternalDisplays` makes over the entries `l`: `terminate` on
each entry still initialized, in list order. -/
def registryTerminations (s : EglState) (l : List Nat) : List Effect :=
  l.filterMap fun e => (s.devDpys e).bind fun dd =>
    if 0 < dd.initCount then some (.eglTerminate dd.eglDisplay) else none

theorem wlFreeInternalDisplay_spec {s : EglState} {e : Nat} {dd : WlEglDeviceDpy} (he : e ≠ 0)
    (h : s.devDpys e = some dd) :
    ∃ s₁, wlFreeInternalDisplay s e = .ok s₁ ∧
      s₁.deviceDpyList = Function.update s.deviceDpyList dd.data ((s.deviceDpyList dd.data).erase e) ∧
      s₁.devDpys = Function.update s.devDpys e none ∧ s₁.displays = s.displays ∧
      s₁.wlEglDisplayList = s.wlEglDisplayList ∧ s₁.nextAddr = s.nextAddr ∧
      s₁.effects = s.effects ++ registryTerminations s [e] := by
  have hread := s.readDevDpy_of_live he h
  by_cases hi : 0 < dd.initCount
  · exact ⟨{ s.log (.eglTerminate dd.eglDisplay) with
        deviceDpyList := Function.update s.deviceDpyList dd.data ((s.deviceDpyList dd.data).erase e)
        devDpys := Function.update s.devDpys e none },
      by simp [wlFreeInternalDisplay, hread, hi], rfl, rfl, rfl, rfl, rfl,
      by simp [registryTerminations, h, hi]⟩
  · exact ⟨{ s with
        deviceDpyList := Function.update s.deviceDpyList dd.data ((s.deviceDpyList dd.data).erase e)
        devDpys := Function.update s.devDpys e none },
      by simp [wlFreeInternalDisplay, hread, hi], rfl, rfl, rfl, rfl, rfl,
      by simp [registryTerminations, h, hi]⟩

/-- The registry loop over distinct live entries of `P`: each is unlinked and freed, after
a `terminate` when it is still initialized. -/
theorem freeAllLoop_spec (P : Nat) (l : List Nat) :
    ∀ s : EglState, l.Nodup → (∀ e ∈ l, e ≠ 0 ∧ ∃ dd, s.devDpys e = some dd ∧ dd.data = P) →
    ∃ s', freeAllLoop P s l = .ok s' ∧
      s'.deviceDpyList = Function.update s.deviceDpyList P ((s.deviceDpyList P).diff l) ∧
      (∀ e, s'.devDpys e = if e ∈ l then none else s.devDpys e) ∧
      s'.displays = s.displays ∧ s'.wlEglDisplayList = s.wlEglDisplayList ∧
      s'.effects = s.effects ++ registryTerminations s l := by
  induction l with
  | nil => exact fun s _ _ => ⟨s, rfl, by simp, by simp, rfl, rfl, by simp [registryTerminations]⟩
  | cons e rest ih =>
      intro s hnd hlive
      obtain ⟨he, dd, hdd, hdata⟩ := hlive e (List.mem_cons_self e rest)
      obtain ⟨hrest, hnd'⟩ := List.nodup_cons.1 hnd
      obtain ⟨s₁, hfree, hlist₁, hdevs₁, hdisp₁, hdl₁, -, heff₁⟩ := wlFreeInternalDisplay_spec he hdd
      have hkeep : ∀ e' ∈ rest, s₁.devDpys e' = s.devDpys e' := fun e' h' => by
        rw [hdevs₁, Function.update_noteq (by rintro rfl; exact hrest h')]
      obtain ⟨s', hloop, hlist, hdevs, hdisp, hdl, heff⟩ := ih s₁ hnd' fun e' h' => by
        rw [hkeep e' h']
        exact hlive e' (List.mem_cons_of_mem e h')
      refine ⟨s', ?_, ?_, fun e' => ?_, hdisp.trans hdisp₁, hdl.trans hdl₁, ?_⟩
      · simp [freeAllLoop, s.readDevDpy_of_live he hdd, hdata, hfree, hloop]
      · rw [hlist, hlist₁, hdata, Function.update_same, Function.update_idem, List.diff_cons]
      · by_cases h : e' = e
        · subst h
          simp [hdevs, hdevs₁, hrest]
        · by_cases h' : e' ∈ rest <;> simp [hdevs, hdevs₁, h, h']
      · have hcongr : registryTerminations s₁ rest = registryTerminations s rest :=
          List.filterMap_congr fun e' h' => by rw [hkeep e' h']
        rw [heff, heff₁, hcongr, List.append_assoc]
        simp only [registryTerminations, ← List.filterMap_append, List.singleton_append]

theorem freeAllLoop_frame {P : Nat} {l : List Nat} :
    ∀ {s s' : EglState}, freeAllLoop P s l = .ok s' →
      s'.displays = s.displays ∧ s'.wlEglDisplayList = s.wlEglDisplayList ∧
      s'.nextAddr = s.nextAddr := by
  induction l with
  | nil => intro s s' h; cases h; exact ⟨rfl, rfl, rfl⟩
  | cons e rest ih =>
      intro s s' h
      obtain ⟨dd, hread, h⟩ := except_bind_eq_ok.1 h
      obtain ⟨he, hdd⟩ := (s.readDevDpy_eq_ok).1 hread
      split_ifs at h
      obtain ⟨s₁, hfree, -, -, hdisp₁, hdl₁, hnext₁, -⟩ := wlFreeInternalDisplay_spec he hdd
      rw [hfree, except_ok_bind] at h
      obtain ⟨h1, h2, h3⟩ := ih h
      exact ⟨h1.trans hdisp₁, h2.trans hdl₁, h3.trans hnext₁⟩

/-!
# The whole call

A global teardown that returns takes the displays of `P` out of the directory and tears them
down, leaving the others untouched.  On a well-formed process it empties `P`'s registry and moves
no entry of another platform data: the call is the display loop followed by the registry loop
over what the display loop left.
-/

theorem diff_self_of_nodup {l : List Nat} (h : l.Nodup) : l.diff l = [] := by
  rw [h.diff_eq_filter, List.filter_eq_nil_iff]
  simp

theorem destroyAll_directory {driver : Driver} {s s' : EglState} {P : Nat} {res : Bool}
    (hnd : s.wlEglDisplayList.Nodup) (hready : LoopReady s P s.wlEglDisplayList)
    (h : wlEglDestroyAllDisplays driver s P = .ok (s', res)) :
    s'.wlEglDisplayList = s.wlEglDisplayList.filter (fun a => !s.ownedBy P a) ∧
      (∀ a, (a ∈ s.wlEglDisplayList → s.ownedBy P a = false) → s'.displays a = s.displays a) ∧
      (∀ a ∈ s.wlEglDisplayList, s.ownedBy P a = true →
        s'.displays a = (s.displays a).bind tornDown) ∧
      s'.nextAddr = s.nextAddr := by
  obtain ⟨s₁, res₁, hloop, hlist, hframe, hclear, -, -, hnext⟩ :=
    destroyAllLoop_spec driver P s.wlEglDisplayList s true hnd hready
  rw [wlEglDestroyAllDisplays, hloop, except_ok_bind] at h
  obtain ⟨s₂, hfree, hfin⟩ := except_bind_eq_ok.1 h
  obtain ⟨rfl, -⟩ : s₂ = s' ∧ res₁ = res := by simpa using hfin
  obtain ⟨hdisp, hdl, hnext'⟩ := freeAllLoop_frame hfree
  refine ⟨?_, fun a ha => by rw [hdisp, hframe a ha], fun a ha hown => by
    rw [hdisp]; exact hclear a ha hown, hnext'.trans hnext⟩
  rw [hdl, hlist, hnd.diff_eq_filter]
  exact List.filter_congr fun a ha => by simp [ha]

theorem destroyAll_registry (driver : Driver) {s : EglState} (P : Nat) (hwf : WellFormed s) :
    ∃ s₁ res s', destroyAllLoop driver P (s, true) s.wlEglDisplayList = .ok (s₁, res) ∧
      freeAllLoop P s₁ (s.deviceDpyList P) = .ok s' ∧
      wlEglDestroyAllDisplays driver s P = .ok (s', res) ∧
      s₁.deviceDpyList = s.deviceDpyList ∧
      s'.deviceDpyList = Function.update s.deviceDpyList P [] ∧
      (∀ e, s'.devDpys e = if e ∈ s.deviceDpyList P then none else s₁.devDpys e) ∧
      s'.effects = s₁.effects ++ registryTerminations s₁ (s.deviceDpyList P) ∧
      ∀ e dd, s.devDpys e = some dd → dd.data ≠ P → s'.devDpys e = some dd := by
  obtain ⟨s₁, res, hloop, -, -, -, hreg, hkept, -⟩ :=
    destroyAllLoop_spec driver P s.wlEglDisplayList s true hwf.nodup (hwf.loopReady P)
  have hentries : ∀ e ∈ s₁.deviceDpyList P,
      e ≠ 0 ∧ ∃ dd, s₁.devDpys e = some dd ∧ dd.data = P := by
    rw [hreg]
    intro e he
    obtain ⟨he0, dd, hdd, hdata⟩ := hwf.entries_live P e he
    obtain ⟨dd', hdd', hdata'⟩ := hkept.live e dd hdd
    exact ⟨he0, dd', hdd', hdata'.trans hdata⟩
  obtain ⟨s', hfree, hlist', hdevs, -, -, heff⟩ :=
    freeAllLoop_spec P (s₁.deviceDpyList P) s₁ (by rw [hreg]; exact hwf.entries_nodup P) hentries
  rw [hreg] at hfree hlist' hdevs heff
  refine ⟨s₁, res, s', hloop, hfree, ?_, hreg, ?_, hdevs, heff, fun e dd hdd hP => ?_⟩
  · simp [wlEglDestroyAllDisplays, hloop, wlFreeAllInternalDisplays, hreg, hfree]
  · rw [hlist', diff_self_of_nodup (hwf.entries_nodup P)]
  · have hnotP : e ∉ s.deviceDpyList P := fun heP => by
      obtain ⟨-, dd', hdd', hdata'⟩ := hwf.entries_live P e heP
      rw [hdd] at hdd'
      cases hdd'
      exact hP hdata'
    rw [hdevs, if_neg hnotP, hkept.other e fun dd' hdd' => by rw [hdd] at hdd'; cases hdd'; exact hP,
      hdd]

/-- `wlEglDestroyAllDisplays(P)` on a well-formed process.  The displays of `P` leave the
directory, which keeps its order, and the displays left in it are untouched; what remains
of a removed display is cleared.  `P`'s registry is emptied and its entries freed, with a
driver `terminate` on each entry still initialized after the display loop, and every
other platform data's registry is as it was. -/
theorem wlEglDestroyAllDisplays_spec (driver : Driver) (s : EglState) (P : Nat)
    (hwf : WellFormed s) :
    ∃ s₁ res s', destroyAllLoop driver P (s, true) s.wlEglDisplayList = .ok (s₁, res) ∧
      wlEglDestroyAllDisplays driver s P = .ok (s', res) ∧
      s'.wlEglDisplayList = s.wlEglDisplayList.filter (fun a => !s.ownedBy P a) ∧
      (∀ a ∈ s'.wlEglDisplayList, s'.displays a = s.displays a) ∧
      (∀ a ∈ s.wlEglDisplayList, s.ownedBy P a = true → Cleared (s'.displays a)) ∧
      s'.deviceDpyList P = [] ∧ (∀ e ∈ s.deviceDpyList P, s'.devDpys e = none) ∧
      s'.effects = s₁.effects ++ registryTerminations s₁ (s.deviceDpyList P) ∧
      ∀ Q, Q ≠ P → s'.deviceDpyList Q = s.deviceDpyList Q ∧
        ∀ e ∈ s.deviceDpyList Q, s'.devDpys e = s.devDpys e := by
  obtain ⟨s₁, res, s', hloop, -, hdestroy, -, hlist', hdevs, heff, hother⟩ :=
    destroyAll_registry driver P hwf
  obtain ⟨hleft, hframe, hclear, -⟩ := destroyAll_directory hwf.nodup (hwf.loopReady P) hdestroy
  refine ⟨s₁, res, s', hloop, hdestroy, hleft, fun a ha => ?_, fun a ha hown => ?_, by simp [hlist'],
    fun e he => by rw [hdevs, if_pos he], heff, fun Q hQ => ⟨by simp [hlist', hQ], fun e he => ?_⟩⟩
  · rw [hleft, List.mem_filter] at ha
    exact hframe a fun _ => by simpa using ha.2
  · rw [hclear a ha hown]
    exact cleared_bind_tornDown _
  · obtain ⟨-, dd, hdd, hdata⟩ := hwf.entries_live Q e he
    rw [hother e dd hdd (hdata ▸ hQ), hdd]

/-- Platform data `9` with an initialized display `1` and an uninitialized display `3`
that a hook holds, both on entry `2`, and platform data `8` with an initialized display `4`
on entry `5`. -/
def twoPlatforms : EglState where
  displays := fun a =>
    if a = 1 then some ⟨9, 100, true, false, 0, 2, 1, 1, 3⟩
    else if a = 3 then some ⟨9, 101, false, false, 0, 2, 0, 2, 4⟩
    else if a = 4 then some ⟨8, 102, false, false, 0, 5, 1, 1, 6⟩
    else none
  wlEglDisplayList := [4, 3, 1]
  devDpys := fun e =>
    if e = 2 then some ⟨50, 0, 9, 1, 1, 5, 226, 128⟩
    else if e = 5 then some ⟨51, 0, 8, 1, 1, 5, 227, 129⟩
    else none
  deviceDpyList := fun p => if p = 9 then [2] else if p = 8 then [5] else []
  supportsDisplayReference := fun _ => true
  nextAddr := 6
  effects := []

theorem wellFormed_twoPlatforms : WellFormed twoPlatforms := by
  refine ⟨by simp [twoPlatforms], by simp [twoPlatforms], by decide, fun p e he => ?_,
    fun p => ?_⟩
  · simp only [twoPlatforms] at he ⊢
    split_ifs at he with h9 h8 <;> simp_all
  · simp only [twoPlatforms]
    split_ifs <;> simp

theorem twoPlatforms_destroyAll :
    WellFormed twoPlatforms ∧
    ∃ s₁ res s', destroyAllLoop workingDriver 9 (twoPlatforms, true) twoPlatforms.wlEglDisplayList =
        .ok (s₁, res) ∧
      wlEglDestroyAllDisplays workingDriver twoPlatforms 9 = .ok (s', res) ∧
      s'.wlEglDisplayList = twoPlatforms.wlEglDisplayList.filter (fun a => !twoPlatforms.ownedBy 9 a) ∧
      (∀ a ∈ s'.wlEglDisplayList, s'.displays a = twoPlatforms.displays a) ∧
      (∀ a ∈ twoPlatforms.wlEglDisplayList, twoPlatforms.ownedBy 9 a = true →
        Cleared (s'.displays a)) ∧
      s'.deviceDpyList 9 = [] ∧ (∀ e ∈ twoPlatforms.deviceDpyList 9, s'.devDpys e = none) ∧
      s'.effects = s₁.effects ++ registryTerminations s₁ (twoPlatforms.deviceDpyList 9) ∧
      ∀ Q, Q ≠ 9 → s'.deviceDpyList Q = twoPlatforms.deviceDpyList Q ∧
        ∀ e ∈ twoPlatforms.deviceDpyList Q, s'.devDpys e = twoPlatforms.devDpys e :=
  ⟨wellFormed_twoPlatforms,
    wlEglDestroyAllDisplays_spec workingDriver twoPlatforms 9 wellFormed_twoPlatforms⟩

end Display
end EglWayland
