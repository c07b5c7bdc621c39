import ImageCatalog.Proofs.Command.Verdicts

/-!
# How a call of a service ends

Once a command has the values for a service, it is never refused: it calls the service, lists the
images and keeps them, or it dies. `endsAsCalled_callService` names the faults of which it can die,
so that whatever holds of these faults holds of the ending.
-/

namespace ImageCatalog.Command

open Config Disk

/-- What calling a service and keeping its images can die of. -/
inductive CallFault (around : Surroundings) : Fault → Prop where
  | generator (fault : Generator.Fault) : CallFault around (ofGeneratorFault fault)
  | settings {fault : Fault} (fails : around.effective = .error fault) : CallFault around fault
  | download (fault : Image.DownloadFault) : CallFault around (.download fault)
  | unencodable : CallFault around .unencodable

/-- The command is done, or dies of such a fault. -/
def EndsAsCalled (around : Surroundings) (report : Report) : Prop :=
  report.ending = .done ∨ ∃ fault, report.ending = .died fault ∧ CallFault around fault

variable {around : Surroundings} {tree : Tree}

theorem EndsAsCalled.afterRequests {report : Report} (ends : EndsAsCalled around report)
    (made : List Http.Request) : EndsAsCalled around (report.afterRequests made) :=
  ends

theorem EndsAsCalled.writeResult {Result : Type} {result : Except Fault Result}
    {report : Result → Report} (faults : ∀ fault, result = .error fault → CallFault around fault)
    (each : ∀ value, EndsAsCalled around (report value)) :
    EndsAsCalled around (writeResult tree result report) := by
  cases result with
  | ok value => exact each value
  | error fault => exact .inr ⟨fault, rfl, faults fault rfl⟩

theorem endsAsCalled_saveAll (directory : Location) (images : List (Nat × String)) :
    EndsAsCalled around (saveAll around directory tree images) := by
  rcases done_or_download_saveAll around directory tree images with done | ⟨fault, died⟩ | died
  · exact .inl done
  · exact .inr ⟨_, died, .download fault⟩
  · exact .inr ⟨_, died, .unencodable⟩

theorem endsAsCalled_keepAll (keeping : Keeping) (references : List String) :
    EndsAsCalled around (keepAll around keeping tree references) := by
  unfold keepAll
  split
  · exact .inl rfl
  · exact endsAsCalled_saveAll _ _
  · exact .writeResult (fun _ => .settings) fun _ => endsAsCalled_saveAll _ _

theorem endsAsCalled_reportImages (keeping : Keeping) (references : List String) :
    EndsAsCalled around (reportImages around keeping references) := by
  unfold reportImages
  split
  · exact .inl rfl
  · unfold Report.write
    split
    · exact endsAsCalled_keepAll keeping references
    · exact .inr ⟨_, rfl, .unencodable⟩

/-- A call of a service is done, or it dies of such a fault. -/
theorem endsAsCalled_callService (around : Surroundings) (config : Config) (values : ValueMap)
    (keeping : Keeping) : EndsAsCalled around (callService around config values keeping) := by
  refine EndsAsCalled.afterRequests (EndsAsCalled.writeResult ?_ fun _ => ?_) _
  · intro fault fails
    rcases Results.mapError_error fails with ⟨cause, _, rfl⟩
    exact .generator cause
  · exact endsAsCalled_reportImages keeping _

end ImageCatalog.Command
