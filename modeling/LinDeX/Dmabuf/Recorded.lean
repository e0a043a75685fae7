import LinDeX.Dmabuf.Registry
import LinDeX.System.Recorded

/-!
# What the registry writes down and what it calls

The events of every registry call are the descriptors that were opened and closed meanwhile.
-/
namespace LinDeX.Dmabuf
variable {ω α : Type} {os : Os ω} {w : ω} {l : List Note} {r : Registry}
@[simp] def RegistryResult.noted (x : RegistryResult ω α) (l : List Note) :
    RegistryResult (ω × List Note) α :=
  ⟨(x.world, l ++ fdNotes x.events),x.registry,x.events,x.result⟩

private theorem closeDescriptor_noted (d : Descriptor) : closeDescriptor os.recorded (w, l) d =
    noted l (closeDescriptor os w d) (fdNotes (closeDescriptor os w d).2) := by
  simp [closeDescriptor,fdNotes_map,← List.map_eq_flatMap]

private theorem dupObjects_noted (src : Descriptor) (is : List (Fin 4)) (d : Descriptor)
    (events : List FdEvent) : ∃ later,
    (dupObjects os src is w d events).2.2.1 = events ++ later ∧
    dupObjects os.recorded src is (w, l) d events =
      noted l (dupObjects os src is w d events) (fdNotes later) := by
  induction is generalizing w l d events with
  | nil => exact ⟨[],by simp [dupObjects]⟩
  | cons i is ih =>
    simp only [dupObjects,recorded_dup]
    split
    · rcases os.dup w (src.objects i).fd with ⟨w',e | fd⟩
      · exact ⟨[],by simp⟩
      · obtain ⟨later,hevents,heq⟩ := @ih w' (l ++ [.opened fd])
          (d.setObject i { d.objects i with fd := fd }) (events ++ [.gain .registryObject fd])
        exact ⟨.gain .registryObject fd :: later,by simp [hevents],by simp [heq]⟩
    · exact ih ..

theorem register_noted (allowed : ω → Descriptor → ω × Int × Option Errno) (d : Descriptor) :
    register os.recorded (fun w d => unnoted w.2 (allowed w.1 d)) (w, l) r d =
      (register os allowed w r d).noted l := by
  obtain ⟨later,hevents,heq⟩ := @dupObjects_noted ω os (allowed w d).1 l d (List.finRange 4)
    d.clearFds []
  simp only [register,recorded_cloexec,unnoted,heq,noted,closeDescriptor_noted]
  repeat' split
  all_goals simp_all

theorem unregister_noted (id : UInt64) :
    unregister os.recorded (w, l) r id = (unregister os w r id).noted l := by
  simp only [unregister,closeDescriptor_noted]
  repeat' split
  all_goals simp_all

theorem begin_noted (s : Submission) :
    begin os.recorded (w, l) r s = (begin os w r s).noted l := by
  have hfence : dupFence os.recorded (w, l) s.acquireFenceFd =
      noted l (dupFence os w s.acquireFenceFd)
        ((dupFence os w s.acquireFenceFd).2.toOption.elim [] (fdNote .opened)) := by
    simp only [dupFence,recorded_dup]
    rcases os.dup w s.acquireFenceFd with ⟨w',e | fd⟩ <;> split <;> simp [Except.toOption]
  unfold begin
  rw [recorded_syncFileValidate,hfence]
  rcases dupFence os w s.acquireFenceFd with ⟨w',e | fd⟩ <;> dsimp only [noted] <;> repeat' split
  all_goals simp [Except.toOption]

theorem registryDestroy_noted : registryDestroy os.recorded (w, l) r =
    noted l (registryDestroy os w r) (fdNotes (registryDestroy os w r).2) := by
  refine foldl_noted fdNotes (fun acc i => ?_) rfl _
  split
  · simp [closeDescriptor_noted]
  · rfl
end LinDeX.Dmabuf
