import EglWayland.Display.Teardown

/-!
# The device registries over whole runs

Driven by `wlGetInternalDisplay` and `wlFreeAllInternalDisplays`, from a process with no
entry, every platform data's `deviceDpyList` holds live entries of that platform data,
one per device.  The lookup of `wlGetInternalDisplay` therefore finds the one entry of a
listed device, and a new entry is only ever made for a device not listed yet.
-/

namespace EglWayland
namespace Display

open EglState

/-- The `EGLDeviceEXT` of the entry at `e`, if it is live. -/
def EglState.deviceOf (s : EglState) (e : Nat) : Option Int :=
  (s.devDpys e).map (·.eglDevice)

/-- Every platform data's list holds live entries of that platform data, below the next
fresh address, with pairwise distinct devices. -/
structure RegistryInv (s : EglState) : Prop where
  nextAddr_pos : 0 < s.nextAddr
  entries_live : ∀ data, ∀ e ∈ s.deviceDpyList data,
    e ≠ 0 ∧ e < s.nextAddr ∧ ∃ dd, s.devDpys e = some dd ∧ dd.data = data
  devices_nodup : ∀ data, ((s.deviceDpyList data).map s.deviceOf).Nodup

theorem registryInv_init (supportsDisplayReference : Nat → Bool) :
    RegistryInv (.init supportsDisplayReference) :=
  ⟨Nat.one_pos, fun _ _ h => (nomatch h), fun _ => List.nodup_nil⟩

theorem RegistryInv.entries_nodup {s : EglState} (h : RegistryInv s) (data : Nat) :
    (s.deviceDpyList data).Nodup :=
  (h.devices_nodup data).of_map _

/-- The entries of two platform data are apart. -/
theorem RegistryInv.not_mem_of_ne {s : EglState} (h : RegistryInv s) {data data' : Nat}
    (hne : data' ≠ data) {e : Nat} (he : e ∈ s.deviceDpyList data') :
    e ∉ s.deviceDpyList data := fun he' => by
  obtain ⟨-, -, dd, hdd, hdata⟩ := h.entries_live data e he'
  obtain ⟨-, -, dd', hdd', hdata'⟩ := h.entries_live data' e he
  rw [hdd] at hdd'
  cases hdd'
  exact hne (hdata'.symm.trans hdata)

/-!
# The lookup

Over live entries of `data`, the loop finds the first entry of the device.
-/

theorem findDeviceDpy_of_live {s : EglState} {data : Nat} {device : Int} :
    ∀ {l : List Nat}, (∀ e ∈ l, e ≠ 0 ∧ ∃ dd, s.devDpys e = some dd ∧ dd.data = data) →
      findDeviceDpy s data device l = .ok (l.find? fun e => s.deviceOf e = some device)
  | [], _ => rfl
  | e :: rest, hl => by
      obtain ⟨he, dd, hdd, hdata⟩ := hl e (List.mem_cons_self e rest)
      have ih := @findDeviceDpy_of_live s data device rest fun e' h' =>
        hl e' (List.mem_cons_of_mem e h')
      by_cases hdev : dd.eglDevice = device <;>
        simp [findDeviceDpy, s.readDevDpy_of_live he hdd, hdata, hdev, ih, List.find?_cons,
          EglState.deviceOf, hdd]

theorem find?_device_of_mem {s : EglState} {l : List Nat} (hnd : (l.map s.deviceOf).Nodup)
    {device : Int} {e : Nat} (he : e ∈ l) (hdev : s.deviceOf e = some device) :
    l.find? (fun e => s.deviceOf e = some device) = some e := by
  have hsome : (l.find? fun e => s.deviceOf e = some device).isSome :=
    List.find?_isSome.2 ⟨e, he, by simpa using hdev⟩
  obtain ⟨x, hx⟩ := Option.isSome_iff_exists.1 hsome
  have hxdev : s.deviceOf x = some device := by simpa using List.find?_some hx
  rw [hx, List.inj_on_of_nodup_map hnd (List.mem_of_find?_eq_some hx) he (hxdev.trans hdev.symm)]

/-! # One call -/

/-- A call for a listed device returns its entry and changes nothing. -/
theorem wlGetInternalDisplay_of_listed {s : EglState} (hinv : RegistryInv s) (env : DeviceEnv)
    {data : Nat} {device : Int} {e : Nat} (he : e ∈ s.deviceDpyList data)
    (hdev : s.deviceOf e = some device) :
    wlGetInternalDisplay env s data device = .ok (s, e) := by
  simp [wlGetInternalDisplay, findDeviceDpy_of_live (hinv.entries_live data · · |>.imp_right And.right),
    find?_device_of_mem (hinv.devices_nodup data) he hdev]

/-- Every step of building an entry succeeds: `calloc`, `getPlatformDisplay`, and the query
and the `stat` of both device files. -/
def DeviceEnv.succeeds (env : DeviceEnv) : Bool :=
  env.callocOk && env.eglDisplay != 0 && env.dev.isSome && env.renderNode.isSome

/-- A call for a device not listed yet links a new entry at the next fresh address exactly
when every step succeeds, with no display initialized on it and the `st_rdev`s of its two
`stat` calls; otherwise it returns `NULL` with the lists and the entries as they were. -/
theorem wlGetInternalDisplay_of_unlisted {s : EglState} (hinv : RegistryInv s)
    (env : DeviceEnv) {data : Nat} {device : Int}
    (hnew : ∀ e ∈ s.deviceDpyList data, s.deviceOf e ≠ some device) :
    ∃ s' e, wlGetInternalDisplay env s data device = .ok (s', e) ∧ s.nextAddr ≤ s'.nextAddr ∧
      if env.succeeds then
        e = s.nextAddr ∧ s'.nextAddr = e + 1 ∧
        s'.deviceDpyList = Function.update s.deviceDpyList data (e :: s.deviceDpyList data) ∧
        ∃ dd, s'.devDpys = Function.update s.devDpys e (some dd) ∧ dd.data = data ∧
          dd.eglDevice = device ∧ dd.eglDisplay = env.eglDisplay ∧ dd.initCount = 0 ∧
          env.dev = some dd.dev ∧ env.renderNode = some dd.renderNode
      else e = 0 ∧ s'.deviceDpyList = s.deviceDpyList ∧ s'.devDpys = s.devDpys := by
  have hfind : findDeviceDpy s data device (s.deviceDpyList data) = .ok none := by
    rw [findDeviceDpy_of_live (hinv.entries_live data · · |>.imp_right And.right),
      List.find?_eq_none.2 fun e he => by simpa using hnew e he]
  obtain ⟨callocOk, eglDisplay, dev, renderNode⟩ := env
  cases callocOk
  · exact ⟨s, 0, by simp [wlGetInternalDisplay, hfind], le_rfl, by simp [DeviceEnv.succeeds]⟩
  -- past `calloc` the address is taken and the driver called
  let s₁ : EglState := ({ s with nextAddr := s.nextAddr + 1 } : EglState).log
    (.eglGetPlatformDisplay device (s.supportsDisplayReference data))
  have hle : s.nextAddr ≤ s₁.nextAddr := by simp [s₁]
  rcases eglDisplay with _ | eglDisplay
  · exact ⟨s₁, 0, by simp [wlGetInternalDisplay, hfind, EglState.alloc, s₁], hle,
      by simp [DeviceEnv.succeeds, s₁]⟩
  rcases dev with _ | dev <;> rcases renderNode with _ | renderNode
  case some.some =>
    let dd := newDeviceDpy data device (eglDisplay + 1) dev renderNode
    let s₂ : EglState := { s₁.setDevDpy s.nextAddr dd with
      deviceDpyList := Function.update s.deviceDpyList data (s.nextAddr :: s.deviceDpyList data) }
    exact ⟨s₂, s.nextAddr, by simp [wlGetInternalDisplay, hfind, EglState.alloc, s₂, s₁, dd],
      hle, by simpa [DeviceEnv.succeeds] using ⟨rfl, dd, rfl, rfl, rfl, rfl, rfl, rfl, rfl⟩⟩
  all_goals exact ⟨s₁, 0, by simp [wlGetInternalDisplay, hfind, EglState.alloc, s₁], hle,
    by simp [DeviceEnv.succeeds, s₁]⟩

/-! # The invariant -/

theorem RegistryInv.getInternalDisplay {s s' : EglState} (hinv : RegistryInv s)
    {env : DeviceEnv} {data : Nat} {device : Int} {e : Nat}
    (h : wlGetInternalDisplay env s data device = .ok (s', e)) : RegistryInv s' := by
  by_cases hlisted : ∃ e ∈ s.deviceDpyList data, s.deviceOf e = some device
  · obtain ⟨e', he', hdev⟩ := hlisted
    rw [wlGetInternalDisplay_of_listed hinv env he' hdev] at h
    obtain ⟨rfl, -⟩ := Prod.mk.inj (Except.ok.inj h)
    exact hinv
  push_neg at hlisted
  obtain ⟨s₁, e₁, h₁, hle, hcase⟩ := wlGetInternalDisplay_of_unlisted hinv env hlisted
  obtain ⟨rfl, rfl⟩ := Prod.mk.inj (Except.ok.inj (h.symm.trans h₁))
  split_ifs at hcase
  · obtain ⟨rfl, hnext, hlist, dd, hdevs, hdata, hdev, -⟩ := hcase
    -- the entries already listed are below the new address, so they keep their device
    have hold : ∀ data', ∀ e' ∈ s.deviceDpyList data', s'.devDpys e' = s.devDpys e' :=
      fun data' e' he' => by
        rw [hdevs, Function.update_noteq (hinv.entries_live data' e' he').2.1.ne]
    have hof : ∀ data', ∀ e' ∈ s.deviceDpyList data', s'.deviceOf e' = s.deviceOf e' :=
      fun data' e' he' => by rw [EglState.deviceOf, hold data' e' he']; rfl
    have hkeep : ∀ data', ∀ e' ∈ s.deviceDpyList data', e' ≠ 0 ∧ e' < s'.nextAddr ∧
        ∃ dd, s'.devDpys e' = some dd ∧ dd.data = data' := fun data' e' he' => by
      obtain ⟨he0, hlt, hlive⟩ := hinv.entries_live data' e' he'
      exact ⟨he0, by omega, hold data' e' he' ▸ hlive⟩
    refine ⟨hinv.nextAddr_pos.trans_le hle, fun data' e' he' => ?_, fun data' => ?_⟩
    · rw [hlist, Function.update_apply] at he'
      split_ifs at he' with hd
      · subst hd
        rcases List.mem_cons.1 he' with rfl | he'
        · exact ⟨hinv.nextAddr_pos.ne', by omega, dd, by simp [hdevs], hdata⟩
        · exact hkeep _ e' he'
      · exact hkeep data' e' he'
    · rw [hlist, Function.update_apply]
      split_ifs with hd
      · subst hd
        rw [List.map_cons, List.map_congr_left (hof data'), List.nodup_cons]
        refine ⟨fun hmem => ?_, hinv.devices_nodup data'⟩
        obtain ⟨e', he', hdev'⟩ := List.mem_map.1 hmem
        exact hlisted e' he' (hdev'.trans (by simp [EglState.deviceOf, hdevs, hdev]))
      · rw [List.map_congr_left (hof data')]
        exact hinv.devices_nodup data'
  · obtain ⟨-, hlist, hdevs⟩ := hcase
    have hof : s'.deviceOf = s.deviceOf := funext fun e => by simp only [EglState.deviceOf, hdevs]
    refine ⟨hinv.nextAddr_pos.trans_le hle, fun data' e' he' => ?_, fun data' => by
      rw [hlist, hof]; exact hinv.devices_nodup data'⟩
    rw [hlist] at he'
    obtain ⟨he0, hlt, hlive⟩ := hinv.entries_live data' e' he'
    exact ⟨he0, by omega, hdevs ▸ hlive⟩

theorem RegistryInv.freeAllInternalDisplays {s s' : EglState} (hinv : RegistryInv s)
    {data : Nat} (h : wlFreeAllInternalDisplays s data = .ok s') : RegistryInv s' := by
  obtain ⟨s₁, hfree, hlist, hdevs, -, -, -⟩ := freeAllLoop_spec data (s.deviceDpyList data) s
    (hinv.entries_nodup data) (hinv.entries_live data · · |>.imp_right And.right)
  rw [wlFreeAllInternalDisplays, hfree] at h
  obtain rfl : s₁ = s' := Except.ok.inj h
  obtain ⟨-, -, hnext⟩ := freeAllLoop_frame hfree
  rw [diff_self_of_nodup (hinv.entries_nodup data)] at hlist
  -- the other platform data keep their lists, and their entries stay live
  have hold : ∀ data', data' ≠ data → ∀ e ∈ s.deviceDpyList data', s₁.devDpys e = s.devDpys e :=
    fun data' hne e he => by rw [hdevs, if_neg (hinv.not_mem_of_ne hne he)]
  refine ⟨hnext ▸ hinv.nextAddr_pos, fun data' e he => ?_, fun data' => ?_⟩
  · rw [hlist, Function.update_apply] at he
    split_ifs at he with hd
    · exact absurd he (List.not_mem_nil e)
    · obtain ⟨he0, hlt, hlive⟩ := hinv.entries_live data' e he
      exact ⟨he0, hnext ▸ hlt, hold data' hd e he ▸ hlive⟩
  · rw [hlist, Function.update_apply]
    split_ifs with hd
    · exact List.nodup_nil
    · rw [List.map_congr_left fun e he => by rw [EglState.deviceOf, hold data' hd e he]]
      exact hinv.devices_nodup data'

/-!
# Runs

`RegistryCall` lists the calls that change the device registries.
-/

inductive RegistryCall where
  | getInternalDisplay (env : DeviceEnv) (data : Nat) (device : Int)
  | freeAllInternalDisplays (data : Nat)

def RegistryCall.apply (s : EglState) : RegistryCall → Except Fault EglState
  | .getInternalDisplay env data device => Prod.fst <$> wlGetInternalDisplay env s data device
  | .freeAllInternalDisplays data => wlFreeAllInternalDisplays s data

/-- Calls made one after another. -/
def registryRun (s : EglState) : List RegistryCall → Except Fault EglState
  | [] => .ok s
  | c :: rest => do registryRun (← c.apply s) rest

theorem RegistryInv.apply {s : EglState} (hinv : RegistryInv s) (c : RegistryCall) :
    ∃ s', c.apply s = .ok s' ∧ RegistryInv s' := by
  cases c with
  | getInternalDisplay env data device =>
      by_cases hlisted : ∃ e ∈ s.deviceDpyList data, s.deviceOf e = some device
      · obtain ⟨e, he, hdev⟩ := hlisted
        exact ⟨s, by simp [RegistryCall.apply, wlGetInternalDisplay_of_listed hinv env he hdev],
          hinv⟩
      · push_neg at hlisted
        obtain ⟨s', e, h, -⟩ := wlGetInternalDisplay_of_unlisted hinv env hlisted
        exact ⟨s', by simp [RegistryCall.apply, h], hinv.getInternalDisplay h⟩
  | freeAllInternalDisplays data =>
      obtain ⟨s', hfree, -⟩ := freeAllLoop_spec data (s.deviceDpyList data) s
        (hinv.entries_nodup data) (hinv.entries_live data · · |>.imp_right And.right)
      exact ⟨s', hfree, hinv.freeAllInternalDisplays hfree⟩

theorem RegistryInv.run : ∀ (calls : List RegistryCall) {s : EglState}, RegistryInv s →
    ∃ s', registryRun s calls = .ok s' ∧ RegistryInv s'
  | [], s, hinv => ⟨s, rfl, hinv⟩
  | c :: rest, _, hinv => by
      obtain ⟨s₁, h₁, hinv₁⟩ := hinv.apply c
      obtain ⟨s', h', hinv'⟩ := RegistryInv.run rest hinv₁
      exact ⟨s', by simp [registryRun, h₁, h'], hinv'⟩

/-- Every run of registry calls from a process with no entry succeeds.  In the state it
reaches each platform data's list holds live entries of that platform data, one per
device; a call for a listed device returns its entry and changes nothing; a call for a
device not listed adds exactly one entry, not listed before, when every step succeeds, with
no display initialized on it and the `st_rdev`s of its two `stat` calls, and otherwise
returns `NULL` with the lists and the entries as they were. -/
theorem registryRun_from_init (supportsDisplayReference : Nat → Bool)
    (calls : List RegistryCall) :
    ∃ s, registryRun (.init supportsDisplayReference) calls = .ok s ∧
      (∀ data, ((s.deviceDpyList data).map s.deviceOf).Nodup ∧
        ∀ e ∈ s.deviceDpyList data, ∃ dd, s.devDpys e = some dd ∧ dd.data = data) ∧
      ∀ env data device,
        (∀ e ∈ s.deviceDpyList data, s.deviceOf e = some device →
          wlGetInternalDisplay env s data device = .ok (s, e)) ∧
        ((∀ e ∈ s.deviceDpyList data, s.deviceOf e ≠ some device) →
          ∃ s' e, wlGetInternalDisplay env s data device = .ok (s', e) ∧
            if env.succeeds then
              e ≠ 0 ∧ e ∉ s.deviceDpyList data ∧
              s'.deviceDpyList = Function.update s.deviceDpyList data (e :: s.deviceDpyList data) ∧
              ∃ dd, s'.devDpys = Function.update s.devDpys e (some dd) ∧ dd.data = data ∧
                dd.eglDevice = device ∧ dd.eglDisplay = env.eglDisplay ∧ dd.initCount = 0 ∧
                env.dev = some dd.dev ∧ env.renderNode = some dd.renderNode
            else e = 0 ∧ s'.deviceDpyList = s.deviceDpyList ∧ s'.devDpys = s.devDpys) := by
  obtain ⟨s, hrun, hinv⟩ := RegistryInv.run calls (registryInv_init supportsDisplayReference)
  refine ⟨s, hrun, fun data => ⟨hinv.devices_nodup data, fun e he =>
    (hinv.entries_live data e he).2.2⟩, fun env data device =>
    ⟨fun e he hdev => wlGetInternalDisplay_of_listed hinv env he hdev, fun hnew => ?_⟩⟩
  obtain ⟨s', e, h, -, hcase⟩ := wlGetInternalDisplay_of_unlisted hinv env hnew
  refine ⟨s', e, h, ?_⟩
  split_ifs at hcase ⊢
  · obtain ⟨rfl, -, hlist, hdd⟩ := hcase
    exact ⟨hinv.nextAddr_pos.ne', fun he => (hinv.entries_live data _ he).2.1.false, hlist, hdd⟩
  · exact hcase

-- Asking twice for one device leaves one entry.
example : (registryRun (.init fun _ => false)
    [.getInternalDisplay ⟨true, 5, some 226, some 128⟩ 9 7,
      .getInternalDisplay ⟨true, 5, some 226, some 128⟩ 9 7]).map (·.deviceDpyList 9) =
    .ok [1] := rfl

end Display
end EglWayland
