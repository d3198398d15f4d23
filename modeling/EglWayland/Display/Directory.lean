import EglWayland.Display.Teardown

/-!
# The display directory

`wlEglGetPlatformDisplayExport` returns a listed display for a repeated request and links
a new one otherwise; `wlEglDestroyAllDisplays` unlinks the displays of one platform data.
Over every sequence of the two calls, the lookup key of a listed display identifies it:
the connection with both flags, and for displays that own their connection the flags
alone.  A request that matches a listed display gets that display back and changes
nothing.

The device a new display is bound to does not depend on the request: the local
`eglDevice` that `wlGetInternalDisplay` is given is never assigned.
-/

namespace EglWayland
namespace Display

open EglState

/-!
# The device of a new display

The case below is `eglGetPlatformDisplay` with `EGL_DEVICE_EXT` set to device `7`, the one device
the driver enumerates.
-/

/-- Every display a call creates is bound to the registry entry of `EGL_NO_DEVICE_EXT`,
whatever device the attributes requested and whatever devices the driver enumerated. -/
theorem created_display_has_no_device {env : CreateEnv} {s s' : EglState}
    {data platform nativeDpy a : Nat} {attribs : Option (List (Int × Int))}
    (h : wlEglGetPlatformDisplayExport env s data platform nativeDpy attribs = .ok (s', a))
    (ha : a ≠ 0) (hnew : a ∉ s.wlEglDisplayList) :
    ∃ d dd, s'.displays a = some d ∧ s'.devDpys d.devDpy = some dd ∧
      dd.eglDevice = eglNoDeviceExt := by
  rcases wlEglGetPlatformDisplayExport_cases h with ⟨-, h0 | hmem⟩ | ⟨u, dev, -, hcreate⟩
  · exact absurd h0 ha
  · exact absurd hmem hnew
  rcases createDisplay_spec hcreate with ⟨h0, -⟩ | ⟨rfl, -, -, d, dd, hdisp, -, hdd, hdev⟩
  · exact absurd h0 ha
  · exact ⟨d, dd, by simp [hdisp], hdd, hdev⟩

theorem requested_device_ignored :
    ∃ s' a, wlEglGetPlatformDisplayExport workingCompositor (.init fun _ => true) 9
        eglPlatformWaylandExt 0 (some [(eglDeviceExt, 7)]) = .ok (s', a) ∧
      a ≠ 0 ∧ a ∉ (EglState.init fun _ => true).wlEglDisplayList ∧
      workingCompositor.queryDevices = some [7] ∧
      ∃ d dd, s'.displays a = some d ∧ s'.devDpys d.devDpy = some dd ∧
        dd.eglDevice = eglNoDeviceExt :=
  ⟨_, _, rfl, by decide, by simp [EglState.init], rfl,
    @created_display_has_no_device workingCompositor (.init fun _ => true) _ 9
      eglPlatformWaylandExt 0 _ (some [(eglDeviceExt, 7)]) rfl (by decide)
      (by simp [EglState.init])⟩

/-!
# Keys

`sameKey` is the key the lookup compares for a display with a caller's connection, and
`sameOwnedKey` the one it compares for displays that own their connection, on a `NULL` request.
Linking a display whose key no listed display has keeps the keys unique, and so does unlinking
displays while touching none that stays listed.
-/

def sameKey (d d' : WlEglDisplay) : Prop :=
  d.nativeDpy = d'.nativeDpy ∧ d.useInitRefCount = d'.useInitRefCount ∧
    d.requestedDevice = d'.requestedDevice

def sameOwnedKey (d d' : WlEglDisplay) : Prop :=
  d.ownNativeDpy = true ∧ d'.ownNativeDpy = true ∧ d.useInitRefCount = d'.useInitRefCount ∧
    d.requestedDevice = d'.requestedDevice

/-- No two listed displays share a key. -/
def KeysUnique (s : EglState) (key : WlEglDisplay → WlEglDisplay → Prop) : Prop :=
  ∀ a ∈ s.wlEglDisplayList, ∀ b ∈ s.wlEglDisplayList, ∀ da db,
    s.displays a = some da → s.displays b = some db → key da db → a = b

theorem sameKey_symm {d d' : WlEglDisplay} (h : sameKey d d') : sameKey d' d :=
  ⟨h.1.symm, h.2.1.symm, h.2.2.symm⟩

theorem sameOwnedKey_symm {d d' : WlEglDisplay} (h : sameOwnedKey d d') : sameOwnedKey d' d :=
  ⟨h.2.1, h.1, h.2.2.1.symm, h.2.2.2.symm⟩

theorem keysUnique_insert {s s' : EglState} {r : Nat} {d : WlEglDisplay}
    {key : WlEglDisplay → WlEglDisplay → Prop} (hsymm : ∀ x y, key x y → key y x)
    (hold : KeysUnique s key) (hlist : s'.wlEglDisplayList = r :: s.wlEglDisplayList)
    (hdisp : s'.displays = Function.update s.displays r (some d))
    (hfresh : r ∉ s.wlEglDisplayList)
    (hnew : ∀ b ∈ s.wlEglDisplayList, ∀ db, s.displays b = some db → ¬key d db) :
    KeysUnique s' key := by
  have hold' : ∀ b ∈ s.wlEglDisplayList, s'.displays b = s.displays b := fun b hb => by
    rw [hdisp, Function.update_noteq (by rintro rfl; exact hfresh hb)]
  have hr : s'.displays r = some d := by simp [hdisp]
  intro a ha b hb da db hda hdb hk
  rw [hlist] at ha hb
  rcases List.mem_cons.1 ha with rfl | ha' <;> rcases List.mem_cons.1 hb with rfl | hb'
  · rfl
  · rw [hr] at hda
    cases hda
    exact absurd hk (hnew b hb' db (by rwa [hold' b hb'] at hdb))
  · rw [hr] at hdb
    cases hdb
    exact absurd (hsymm _ _ hk) (hnew a ha' da (by rwa [hold' a ha'] at hda))
  · exact hold a ha' b hb' da db (by rwa [hold' a ha'] at hda) (by rwa [hold' b hb'] at hdb) hk

theorem keysUnique_of_subset {s s' : EglState} {key : WlEglDisplay → WlEglDisplay → Prop}
    (hold : KeysUnique s key) (hsub : ∀ a ∈ s'.wlEglDisplayList, a ∈ s.wlEglDisplayList)
    (hdisp : ∀ a ∈ s'.wlEglDisplayList, s'.displays a = s.displays a) : KeysUnique s' key :=
  fun a ha b hb da db hda hdb =>
    hold a (hsub a ha) b (hsub b hb) da db (by rwa [← hdisp a ha]) (by rwa [← hdisp b hb])

/-!
# Reachable directories

`connectionFresh c` says no listed display uses the connection `c`.  A global teardown keeps the
invariant since it only unlinks displays.
-/

def connectionFresh (s : EglState) (c : Nat) : Prop :=
  ∀ b ∈ s.wlEglDisplayList, ∀ d, s.displays b = some d → d.nativeDpy ≠ c

instance (s : EglState) (c : Nat) : Decidable (connectionFresh s c) :=
  decidable_of_iff (∀ b ∈ s.wlEglDisplayList, ∀ d ∈ s.displays b, d.nativeDpy ≠ c)
    (by simp [connectionFresh, Option.mem_def])

/-- The processes reachable from a fresh one by creations and global teardowns, each
`wl_display_connect` returning a connection that no listed display uses. -/
inductive DirectoryReachable (sdr : Nat → Bool) : EglState → Prop
  | init : DirectoryReachable sdr (.init sdr)
  | create {s s' : EglState} {r : Nat} (env : CreateEnv) (data platform nativeDpy : Nat)
      (attribs : Option (List (Int × Int))) (hs : DirectoryReachable sdr s)
      (hfresh : connectionFresh s env.connect)
      (h : wlEglGetPlatformDisplayExport env s data platform nativeDpy attribs = .ok (s', r)) :
      DirectoryReachable sdr s'
  | destroyAll {s s' : EglState} {res : Bool} (driver : Driver) (data : Nat)
      (hs : DirectoryReachable sdr s)
      (h : wlEglDestroyAllDisplays driver s data = .ok (s', res)) : DirectoryReachable sdr s'

/-- What holds of the directory along such runs: listed displays are live, connected and
not initialized, linked once, below the next fresh address, and their keys are unique. -/
structure DirectoryInv (s : EglState) : Prop where
  listed : ∀ a ∈ s.wlEglDisplayList, a ≠ 0 ∧ a < s.nextAddr ∧
    ∃ d, s.displays a = some d ∧ d.nativeDpy ≠ 0 ∧ d.initCount = 0
  nodup : s.wlEglDisplayList.Nodup
  keys : KeysUnique s sameKey
  ownedKeys : KeysUnique s sameOwnedKey
  nextAddr_pos : 0 < s.nextAddr

theorem directoryInv_init (sdr : Nat → Bool) : DirectoryInv (.init sdr) :=
  ⟨by simp [init], by simp [init], by simp [KeysUnique, init], by simp [KeysUnique, init],
    Nat.one_pos⟩

theorem DirectoryInv.of_same {s s' : EglState} (h : DirectoryInv s) (hs : SameDirectory s s') :
    DirectoryInv s' := by
  have hsub : ∀ a ∈ s'.wlEglDisplayList, a ∈ s.wlEglDisplayList := by simp [hs.list]
  have hdisp : ∀ a ∈ s'.wlEglDisplayList, s'.displays a = s.displays a := by simp [hs.displays]
  refine ⟨fun a ha => ?_, hs.list ▸ h.nodup, keysUnique_of_subset h.keys hsub hdisp,
    keysUnique_of_subset h.ownedKeys hsub hdisp, Nat.lt_of_lt_of_le h.nextAddr_pos hs.nextAddr⟩
  obtain ⟨h0, hlt, d, hd, hn, hi⟩ := h.listed a (hsub a ha)
  exact ⟨h0, Nat.lt_of_lt_of_le hlt hs.nextAddr, d, (hdisp a ha).trans hd, hn, hi⟩

/-- A creation keeps the invariant: a new display gets an address never used and a key no
listed display has. -/
theorem DirectoryInv.create {env : CreateEnv} {s s' : EglState} {data platform nativeDpy r : Nat}
    {attribs : Option (List (Int × Int))} (h : DirectoryInv s)
    (hfresh : connectionFresh s env.connect)
    (hcall : wlEglGetPlatformDisplayExport env s data platform nativeDpy attribs = .ok (s', r)) :
    DirectoryInv s' := by
  rcases wlEglGetPlatformDisplayExport_cases hcall with ⟨hs, -⟩ | ⟨u, dev, hlook, hcreate⟩
  · exact h.of_same hs
  rcases createDisplay_spec hcreate with ⟨-, hs⟩ | ⟨rfl, hlist, hnext, d, -, hdisp, hkey, -⟩
  · exact h.of_same hs
  have hnew : s.nextAddr ∉ s.wlEglDisplayList := fun hm => Nat.lt_irrefl _ (h.listed _ hm).2.1
  have hmiss := lookupDisplay_none hlook
  have hold : ∀ b ∈ s.wlEglDisplayList, s'.displays b = s.displays b := fun b hb => by
    rw [hdisp, Function.update_noteq (by rintro rfl; exact hnew hb)]
  have hnz : d.nativeDpy ≠ 0 := by
    by_cases h0 : nativeDpy = 0
    · exact (hkey.owned h0).1 ▸ (hkey.owned h0).2.1
    · exact (hkey.given h0).1 ▸ h0
  refine ⟨fun a ha => ?_, by rw [hlist]; exact List.nodup_cons.2 ⟨hnew, h.nodup⟩,
    keysUnique_insert (fun _ _ => sameKey_symm) h.keys hlist hdisp hnew fun b hb db hdb hk => ?_,
    keysUnique_insert (fun _ _ => sameOwnedKey_symm) h.ownedKeys hlist hdisp hnew
      fun b hb db hdb hk => ?_, by omega⟩
  · rw [hlist] at ha
    rcases List.mem_cons.1 ha with rfl | ha
    · exact ⟨h.nextAddr_pos.ne', hnext, d, by simp [hdisp], hnz, hkey.initCount⟩
    · obtain ⟨h0, hlt, db, hdb, hn, hi⟩ := h.listed a ha
      exact ⟨h0, by omega, db, (hold a ha).trans hdb, hn, hi⟩
  · have hm := hmiss b hb db hdb
    by_cases h0 : nativeDpy = 0
    · exact hfresh b hb db hdb (hk.1.symm.trans (hkey.owned h0).1)
    · simp [WlEglDisplay.matches, ← hk.1, (hkey.given h0).1, ← hk.2.1, hkey.useInitRefCount,
        ← hk.2.2, hkey.requestedDevice] at hm
  · have hm := hmiss b hb db hdb
    by_cases h0 : nativeDpy = 0
    · simp [WlEglDisplay.matches, h0, hk.2.1, ← hk.2.2.1, hkey.useInitRefCount, ← hk.2.2.2,
        hkey.requestedDevice] at hm
    · exact absurd hk.1 (by simp [(hkey.given h0).2])

theorem DirectoryInv.destroyAll {driver : Driver} {s s' : EglState} {data : Nat} {res : Bool}
    (h : DirectoryInv s) (hcall : wlEglDestroyAllDisplays driver s data = .ok (s', res)) :
    DirectoryInv s' := by
  have hready : LoopReady s data s.wlEglDisplayList := fun a ha => by
    obtain ⟨h0, -, d, hd, -, hi⟩ := h.listed a ha
    exact ⟨h0, d, hd, fun _ hpos => absurd hi (Nat.pos_iff_ne_zero.1 hpos)⟩
  obtain ⟨hlist, hframe, -, hnext⟩ := destroyAll_directory h.nodup hready hcall
  have hsub : ∀ a ∈ s'.wlEglDisplayList, a ∈ s.wlEglDisplayList := fun a ha => by
    rw [hlist] at ha
    exact (List.mem_filter.1 ha).1
  have hdisp : ∀ a ∈ s'.wlEglDisplayList, s'.displays a = s.displays a := fun a ha => by
    rw [hlist, List.mem_filter] at ha
    exact hframe a fun _ => by simpa using ha.2
  refine ⟨fun a ha => ?_, hlist ▸ h.nodup.filter _, keysUnique_of_subset h.keys hsub hdisp,
    keysUnique_of_subset h.ownedKeys hsub hdisp, hnext ▸ h.nextAddr_pos⟩
  obtain ⟨h0, hlt, d, hd, hn, hi⟩ := h.listed a (hsub a ha)
  exact ⟨h0, hnext ▸ hlt, d, (hdisp a ha).trans hd, hn, hi⟩

theorem DirectoryReachable.inv {sdr : Nat → Bool} {s : EglState} (h : DirectoryReachable sdr s) :
    DirectoryInv s := by
  induction h with
  | init => exact directoryInv_init sdr
  | create _ _ _ _ _ _ hfresh hcall ih => exact ih.create hfresh hcall
  | destroyAll _ _ _ hcall ih => exact ih.destroyAll hcall

/-- Two listed displays that both match one request are the same display. -/
theorem DirectoryInv.matches_eq {s : EglState} (h : DirectoryInv s) {nativeDpy : Nat} {u : Bool}
    {dev : Int} {a b : Nat} {da db : WlEglDisplay} (ha : a ∈ s.wlEglDisplayList)
    (hb : b ∈ s.wlEglDisplayList) (hda : s.displays a = some da) (hdb : s.displays b = some db)
    (hma : da.matches nativeDpy u dev = true) (hmb : db.matches nativeDpy u dev = true) : b = a := by
  have hnz : ∀ c ∈ s.wlEglDisplayList, ∀ dc, s.displays c = some dc → dc.nativeDpy ≠ 0 :=
    fun c hc dc hdc => by
      obtain ⟨-, -, dc', hdc', hn, -⟩ := h.listed c hc
      rw [hdc] at hdc'
      cases hdc'
      exact hn
  simp only [WlEglDisplay.matches, Bool.and_eq_true, Bool.or_eq_true, beq_iff_eq] at hma hmb
  by_cases h0 : nativeDpy = 0
  · subst h0
    have hoa := hma.1.1.resolve_left (hnz a ha da hda)
    have hob := hmb.1.1.resolve_left (hnz b hb db hdb)
    exact h.ownedKeys b hb a ha db da hdb hda
      ⟨hob.2, hoa.2, hmb.1.2.trans hma.1.2.symm, hmb.2.trans hma.2.symm⟩
  · have hna := hma.1.1.resolve_right (by simp [h0])
    have hnb := hmb.1.1.resolve_right (by simp [h0])
    exact h.keys b hb a ha db da hdb hda
      ⟨hnb.trans hna.symm, hmb.1.2.trans hma.1.2.symm, hmb.2.trans hma.2.symm⟩

/-- Over every sequence of creations and global teardowns: no two listed displays share
the key of a request with a connection, nor two displays owning their connection the key
of a `NULL` request; and a request matching a listed display returns that display and
changes nothing. -/
theorem directory_keys_unique {sdr : Nat → Bool} {s : EglState} (h : DirectoryReachable sdr s) :
    KeysUnique s sameKey ∧ KeysUnique s sameOwnedKey ∧
    ∀ (env : CreateEnv) (data nativeDpy : Nat) (attribs : Option (List (Int × Int))) (u : Bool)
      (dev : Int) (a : Nat) (d : WlEglDisplay), parseDisplayAttribs attribs = .ok (u, dev) →
      a ∈ s.wlEglDisplayList → s.displays a = some d → d.matches nativeDpy u dev = true →
      wlEglGetPlatformDisplayExport env s data eglPlatformWaylandExt nativeDpy attribs =
        .ok (s, a) := by
  have hinv := h.inv
  refine ⟨hinv.keys, hinv.ownedKeys, fun env data nativeDpy attribs u dev a d hparse ha hd hm => ?_⟩
  have hlook : lookupDisplay s nativeDpy u dev s.wlEglDisplayList = .ok (some a) :=
    lookupDisplay_unique hd hm ha
      (fun b hb => ⟨(hinv.listed b hb).1, (hinv.listed b hb).2.2.imp fun _ h => h.1⟩)
      (fun b hb db hdb hmb => hinv.matches_eq ha hb hd hdb hm hmb)
  simp [wlEglGetPlatformDisplayExport, hparse, hlook]

/-- A default connection, then a caller's connection `7` on the same platform data, then
the teardown of another platform data. -/
theorem twoConnections_directory :
    ∃ s, DirectoryReachable (fun _ => true) s ∧ s.wlEglDisplayList = [3, 1] ∧
      (KeysUnique s sameKey ∧ KeysUnique s sameOwnedKey ∧
      ∀ (env : CreateEnv) (data nativeDpy : Nat) (attribs : Option (List (Int × Int))) (u : Bool)
        (dev : Int) (a : Nat) (d : WlEglDisplay), parseDisplayAttribs attribs = .ok (u, dev) →
        a ∈ s.wlEglDisplayList → s.displays a = some d → d.matches nativeDpy u dev = true →
        wlEglGetPlatformDisplayExport env s data eglPlatformWaylandExt nativeDpy attribs =
          .ok (s, a)) := by
  have h₂ := DirectoryReachable.create { workingCompositor with connect := 101 } 9
    eglPlatformWaylandExt 7 none
    (.create workingCompositor 9 eglPlatformWaylandExt 0 none
      (DirectoryReachable.init : DirectoryReachable (fun _ => true) _) (by decide) rfl)
    (by decide) rfl
  exact ⟨_, .destroyAll workingDriver 8 h₂ rfl, rfl, directory_keys_unique
    (.destroyAll workingDriver 8 h₂ rfl)⟩

end Display
end EglWayland
