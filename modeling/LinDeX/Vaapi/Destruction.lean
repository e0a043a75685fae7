import LinDeX.Decode.Calls
import LinDeX.Decode.Mock
import LinDeX.Encode.Mock
import LinDeX.Library.Sweep

/-!
# Destroying surfaces

Both runtimes check a list of ids in one loop and destroy the surfaces in a second one, which
looks each id up again without a check.
-/
namespace LinDeX.Vaapi
open Program
variable {σ τ : Type}
/-- What a caller of `destroy_surfaces` relies on. An error leaves every surface as it was,
success clears those that are listed, and no lookup of the second loop fails. -/
def DestroysSafely (T : Table σ UInt32 (Fin 64) τ) (destroy : StateM σ VaStatus)
    (ids : List UInt32) (s : σ) : Prop :=
  (((destroy s).1 ≠ .success ∧ T.view (destroy s).2 = T.view s) ∨
    ((destroy s).1 = .success ∧ ∀ k, T.view (destroy s).2 k =
      if ∃ id ∈ ids, T.slot id = some k then T.zero else T.view s k)) ∧
  T.missed (destroy s).2 = T.missed s

structure TwoLoops (T : Table σ UInt32 (Fin 64) τ) (g : UInt32 → StateM σ PUnit)
    (destroy : StateM σ VaStatus) (ids : List UInt32) (s : σ) (refused : Prop) : Prop where
  table : T.Sound
  clears : T.Clears g
  of_refused : refused → (destroy s).1 ≠ .success ∧ (destroy s).2 = s
  of_accepted : ¬ refused → destroy s = (.success, (ids.forM g s).2)
  found : ¬ refused → ∀ id ∈ ids, T.find s id ≠ none

theorem TwoLoops.destroysSafely_iff {T : Table σ UInt32 (Fin 64) τ} {g : UInt32 → StateM σ PUnit}
    {destroy : StateM σ VaStatus} {ids : List UInt32} {s : σ} {refused : Prop}
    (h : TwoLoops T g destroy ids s refused) :
    DestroysSafely T destroy ids s ↔ refused ∨ ids.Nodup := by
  by_cases hr : refused
  · obtain ⟨hstatus,hstate⟩ := h.of_refused hr
    exact iff_of_true ⟨.inl ⟨hstatus,by rw [hstate]⟩,by rw [hstate]⟩ (.inl hr)
  · have hcleared : ∀ k, T.view (ids.forM g s).2 k =
        if ∃ id ∈ ids, T.slot id = some k then T.zero else T.view s k := fun k => by
      rw [Table.view_forM h.clears h.table.zero_unused]
      refine if_congr (and_iff_left_of_imp ?_) rfl rfl
      rintro ⟨id,hid,hslot⟩
      obtain ⟨k',hfind⟩ := Option.ne_none_iff_exists'.mp (h.found hr id hid)
      obtain ⟨hslot',hused⟩ := Table.find_eq_some.mp hfind
      rwa [Option.some.inj (hslot.symm.trans hslot')]
    have hmissed := Table.missed_eq_iff h.table h.clears (h.found hr)
    unfold DestroysSafely
    rw [h.of_accepted hr]
    constructor
    · exact fun hsafe => .inr (hmissed.mp hsafe.2)
    · exact fun hnodup => ⟨.inr ⟨rfl,hcleared⟩,hmissed.mpr (hnodup.resolve_left hr)⟩
end LinDeX.Vaapi

namespace LinDeX.Decode
open Vaapi Program
variable {ω : Type}
def surfaceTable : Table (Machine ω) UInt32 (Fin 64) Surface where
  slot := idIndex 64 typeSurface
  view s := s.runtime.surfaces
  used := Surface.used
  zero := Surface.zero
  missed s := s.events.count .nullDereference

theorem destroySurface_clears (env : Env ω) : surfaceTable.Clears (destroySurface env) where
  found {s id k} hfind := by
    have hends : Ends (destroySurface env id) (fun _ t =>
        t.runtime.surfaces = Function.update s.runtime.surfaces k Surface.zero ∧
          t.events = s.events) s := by
      refine .read_bind ?_
      rw [show getSurface s.runtime id = some k from hfind]
      refine .bind ((releaseSurfaceOutput_released env k s).mono fun _ t ht => ?_)
      refine .update ⟨?_,ht.2⟩
      rw [ht.1]
      exact Function.update_idem ..
    exact ⟨hends.1,congrArg (List.count _) hends.2⟩
  lost {s id} hfind := by
    have hends : Ends (destroySurface env id) (fun _ t =>
        t.runtime.surfaces = s.runtime.surfaces ∧ t.events = s.events ++ [.nullDereference]) s := by
      refine .read_bind ?_
      rw [show getSurface s.runtime id = none from hfind]
      exact .update ⟨rfl,rfl⟩
    exact ⟨hends.1,(congrArg (List.count _) hends.2).trans (by simp [surfaceTable])⟩

theorem destroySurfaces_twoLoops (env : Env ω) (ids : List UInt32) (s : Machine ω) :
    TwoLoops surfaceTable (destroySurface env) (destroySurfaces env ids) ids s
      (∃ id ∈ ids, getSurface s.runtime id = none) where
  table := ⟨idIndex_inj,rfl⟩
  clears := destroySurface_clears env
  of_refused h := by
    have hany : (ids.any fun id => (getSurface s.runtime id).isNone) = true := by simpa using h
    have hends : Ends (destroySurfaces env ids) (fun status t => status = .invalidSurface ∧ t = s)
        s := by
      refine .read_bind ?_
      rw [if_pos hany]
      exact .pure ⟨rfl,rfl⟩
    exact ⟨by rw [hends.1]; decide,hends.2⟩
  of_accepted h := by
    have hany : ¬ (ids.any fun id => (getSurface s.runtime id).isNone) = true := by simpa using h
    have hends : Ends (destroySurfaces env ids)
        (fun r t => (r, t) = (.success, (ids.forM (destroySurface env) s).2)) s := by
      refine .read_bind ?_
      rw [if_neg hany]
      exact rfl
    exact hends
  found h id hid hnone := h ⟨id,hid,hnone⟩
end LinDeX.Decode

namespace LinDeX.Encode
open Vaapi Program
variable {ω : Type}
def surfaceTable : Table (Machine ω) UInt32 (Fin 64) Surface where
  slot := idIndex 64 typeSurface
  view s := s.runtime.surfaces
  used := Surface.used
  zero := Surface.zero
  missed s := s.events.count .nullDereference

theorem destroySurface_clears (env : Env ω) : surfaceTable.Clears (destroySurface env) where
  found {s id k} hfind := by
    have hends : Ends (destroySurface env id) (fun _ t => Cleared k s t) s := by
      refine .read_bind ?_
      rw [show getSurface s.runtime id = some k from hfind]
      exact clearSurface_cleared env k s
    exact ⟨congrArg Runtime.surfaces hends.1,congrArg (List.count _) hends.2⟩
  lost {s id} hfind := by
    have hends : Ends (destroySurface env id) (fun _ t =>
        t.runtime.surfaces = s.runtime.surfaces ∧ t.events = s.events ++ [.nullDereference]) s := by
      refine .read_bind ?_
      rw [show getSurface s.runtime id = none from hfind]
      exact .update ⟨rfl,rfl⟩
    exact ⟨hends.1,(congrArg (List.count _) hends.2).trans (by simp [surfaceTable])⟩

theorem destroyRefused_of_missing {rt : Runtime} {id : UInt32} (h : getSurface rt id = none) :
    destroyRefused rt id = some .invalidSurface := by
  simp only [destroyRefused,h]

theorem destroyRefused_ne_success {rt : Runtime} {id : UInt32} {status : VaStatus}
    (h : destroyRefused rt id = some status) : status ≠ .success := by
  unfold destroyRefused at h
  split at h
  · exact Option.some.inj h ▸ by decide
  · split at h
    · exact Option.some.inj h ▸ by decide
    · cases h

theorem destroySurfaces_twoLoops (env : Env ω) (ids : List UInt32) (s : Machine ω) :
    TwoLoops surfaceTable (destroySurface env) (destroySurfaces env ids) ids s
      (∃ id ∈ ids, destroyRefused s.runtime id ≠ none) where
  table := ⟨idIndex_inj,rfl⟩
  clears := destroySurface_clears env
  of_refused h := by
    have hsome : (ids.findSome? (destroyRefused s.runtime)).isSome := by
      simpa [Option.isSome_iff_ne_none] using h
    obtain ⟨status,hstatus⟩ := Option.isSome_iff_exists.mp hsome
    have hends : Ends (destroySurfaces env ids) (fun r t => r = status ∧ t = s) s := by
      refine .read_bind ?_
      rw [hstatus]
      exact .pure ⟨rfl,rfl⟩
    obtain ⟨id, -,hid⟩ := List.exists_of_findSome?_eq_some hstatus
    exact ⟨by rw [hends.1]; exact destroyRefused_ne_success hid,hends.2⟩
  of_accepted h := by
    have hnone : ids.findSome? (destroyRefused s.runtime) = none :=
      List.findSome?_eq_none_iff.mpr fun id hid => not_not.mp fun hne => h ⟨id,hid,hne⟩
    have hends : Ends (destroySurfaces env ids)
        (fun r t => (r, t) = (.success, (ids.forM (destroySurface env) s).2)) s := by
      refine .read_bind ?_
      rw [hnone]
      exact rfl
    exact hends
  found h id hid hnone := h ⟨id,hid,by
    rw [destroyRefused_of_missing hnone]
    exact Option.some_ne_none _⟩
end LinDeX.Encode

namespace LinDeX.Vaapi
/-- A list of ids is refused, or destroyed as a whole without a missed lookup, exactly if the first
loop refuses it or no id is listed twice. -/
theorem destroySurfaces_safe_iff {ω : Type} (decode : Decode.Env ω) (encode : Encode.Env ω)
    (s : Decode.Machine ω) (t : Encode.Machine ω) (ids : List UInt32) :
    (DestroysSafely Decode.surfaceTable (Decode.destroySurfaces decode ids) ids s ↔
      (∃ id ∈ ids, Decode.getSurface s.runtime id = none) ∨ ids.Nodup) ∧
    (DestroysSafely Encode.surfaceTable (Encode.destroySurfaces encode ids) ids t ↔
      (∃ id ∈ ids, Encode.destroyRefused t.runtime id ≠ none) ∨ ids.Nodup) :=
  ⟨(Decode.destroySurfaces_twoLoops decode ids s).destroysSafely_iff,
    (Encode.destroySurfaces_twoLoops encode ids t).destroysSafely_iff⟩

def destroyTwiceDecode : Decode.Machine Decode.MockWorld :=
  (Decode.createSurfaces rtFormatYuv420 64 64 1 [] Decode.mockMachine).2

def destroyTwiceEncode : Encode.Machine Encode.MockWorld :=
  Encode.step (Encode.mockEnv fun _ => ⟨[],true⟩) Encode.mockMachine
    (.createSurfaces rtFormatYuv420 64 64 1 [])

theorem destroySurfaces_repeated :
    ¬ DestroysSafely Decode.surfaceTable
      (Decode.destroySurfaces Decode.mockEnv
        [makeId Decode.typeSurface 0,makeId Decode.typeSurface 0])
      [makeId Decode.typeSurface 0,makeId Decode.typeSurface 0] destroyTwiceDecode ∧
    ¬ DestroysSafely Encode.surfaceTable
      (Encode.destroySurfaces (Encode.mockEnv fun _ => ⟨[],true⟩)
        [makeId Encode.typeSurface 0,makeId Encode.typeSurface 0])
      [makeId Encode.typeSurface 0,makeId Encode.typeSurface 0] destroyTwiceEncode := by
  refine ⟨fun h => absurd h.2 ?_,fun h => absurd h.2 ?_⟩
  · decide +kernel
  · decide +kernel
end LinDeX.Vaapi
