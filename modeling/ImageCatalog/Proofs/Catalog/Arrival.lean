import ImageCatalog.Proofs.Catalog.Offer
import Mathlib.Logic.Relation

/-!
# Loading in any order of arrival

While the catalog is loaded several replies are waited for, and any of them may arrive next. With a
network that answers every request in a fixed way, what has been read so far always agrees with what
the backend offers (`Agrees`), whatever the order; when nothing is waited for any more, the whole
offer has been read. Each reply leaves one request fewer to be answered, so loading ends.
-/

namespace ImageCatalog.Catalog

open Http Items

variable {Fault : Type} {network : Network} {backend : Backend}

/-- One of the replies that are waited for arrives. -/
inductive Load.Arrives (network : Network) (selected : Except Fault Backend) :
    Load Fault → Load Fault → Prop where
  | one {load : Load Fault} {slot : Slot} {pending : Pending}
      (awaited : (slot, pending) ∈ load.pending) :
      Arrives network selected load (load.deliver selected slot (pending.fetch network).1)

/-- What has been read of a file agrees with the network. -/
def FileLoad.Agrees (network : Network) (backend : Backend) (category : String)
    (load : FileLoad) : Prop :=
  ∀ config?, load.state = .finished config? →
    config? = backend.config? network category load.file

/-- What has been read of a category agrees with the network. -/
def CategoryLoad.Agrees (network : Network) (backend : Backend) (load : CategoryLoad) : Prop :=
  load.backend = backend ∧
    ∀ files, load.state = .reading files →
      files.map FileLoad.file = backend.configFiles network load.category ∧
        ∀ file ∈ files, file.Agrees network backend load.category

/-- What has been read of the catalog agrees with the network. -/
def Load.Agrees (network : Network) (backend : Backend) : Load Fault → Prop
  | .waiting other => other = backend
  | .reading categories =>
      categories.map CategoryLoad.category = backend.categories network ∧
        ∀ category ∈ categories, category.Agrees network backend
  | .stopped _ => False

/-- The number of requests for a file that are still to be answered. -/
def FileLoad.outstanding (load : FileLoad) : Nat :=
  if load.isWaiting then 1 else 0

/-- The number of requests for a category that are still to be answered. -/
def CategoryLoad.outstanding (network : Network) (load : CategoryLoad) : Nat :=
  match load.state with
  | .waiting => (load.backend.configFiles network load.category).length + 1
  | .reading files => (files.map FileLoad.outstanding).sum

/-- The number of requests for the catalog that are still to be answered. -/
def Load.outstanding (network : Network) : Load Fault → Nat
  | .waiting backend =>
      (((backend.categories network).map (CategoryLoad.start backend)).map
        (CategoryLoad.outstanding network)).sum + 1
  | .reading categories => (categories.map (CategoryLoad.outstanding network)).sum
  | .stopped _ => 0

/-! ## One file -/

@[simp]
theorem FileLoad.file_deliver (category : String) (reply : Reply) (load : FileLoad) :
    (load.deliver category reply).file = load.file := by
  unfold deliver
  split <;> rfl

theorem FileLoad.agrees_deliver {category : String} {load : FileLoad}
    (agrees : load.Agrees network backend category) :
    (load.deliver category (backend.reply network load.file.address)).Agrees network backend
      category := by
  rcases load with ⟨file, _ | found⟩
  · intro config? finished
    cases finished
    rfl
  · exact agrees

theorem FileLoad.outstanding_deliver {category : String} {load : FileLoad} (reply : Reply)
    (waiting : load.isWaiting = true) :
    (load.deliver category reply).outstanding + 1 = load.outstanding := by
  rcases load with ⟨file, _ | config?⟩
  · rfl
  · simp [isWaiting] at waiting

theorem FileLoad.config?_of_agrees {category : String} {load : FileLoad}
    (agrees : load.Agrees network backend category) (settled : load.outstanding = 0) :
    load.config? = backend.config? network category load.file := by
  rcases load with ⟨file, _ | found⟩
  · simp [outstanding, isWaiting] at settled
  · exact agrees found rfl

/-! ## One category -/

namespace CategoryLoad

@[simp]
theorem category_deliverFiles (reply : Reply) (load : CategoryLoad) :
    (load.deliverFiles reply).category = load.category := by
  unfold deliverFiles
  split <;> rfl

@[simp]
theorem category_deliverDocument (position : Nat) (reply : Reply) (load : CategoryLoad) :
    (load.deliverDocument position reply).category = load.category := by
  unfold deliverDocument
  split <;> rfl

theorem map_file_toRead (files : List File) :
    (toRead files).map FileLoad.file = files.filter fun file => Config.isConfigFile file.name := by
  simp [toRead, Function.comp_def, FileLoad.start]

theorem sum_outstanding_toRead (files : List File) :
    ((toRead files).map FileLoad.outstanding).sum =
      (files.filter fun file => Config.isConfigFile file.name).length := by
  have waits : ∀ file, (FileLoad.start file).outstanding = 1 := fun _ => rfl
  simp only [toRead, List.map_map, Function.comp_def, waits, List.map_const',
    List.sum_replicate_nat, Nat.mul_one]

theorem agrees_start (category : String) :
    (start backend category).Agrees network backend := by
  refine ⟨rfl, fun files reading => ?_⟩
  cases reading

theorem agrees_deliverFiles {load : CategoryLoad} (agrees : load.Agrees network backend) :
    (load.deliverFiles (load.backend.reply network (load.backend.filesUrl load.category))).Agrees
      network backend := by
  rcases load with ⟨other, category, _ | found⟩
  · rcases agrees with ⟨rfl, _⟩
    refine ⟨rfl, fun files reading => ?_⟩
    cases reading
    refine ⟨map_file_toRead _, fun file fileMem config? finished => ?_⟩
    rcases List.mem_map.mp fileMem with ⟨source, _, rfl⟩
    cases finished
  · exact agrees

theorem agrees_deliverDocument {load : CategoryLoad} (agrees : load.Agrees network backend)
    {files : List FileLoad} (reading : load.state = .reading files) {position : Nat}
    {file : FileLoad} (present : files[position]? = some file) :
    (load.deliverDocument position (load.backend.reply network file.file.address)).Agrees
      network backend := by
  rcases load with ⟨other, category, state⟩
  simp only at reading
  subst reading
  rcases agrees with ⟨rfl, agrees⟩
  rcases agrees files rfl with ⟨sameFiles, fileAgrees⟩
  refine ⟨rfl, fun changed reading => ?_⟩
  simp only [deliverDocument, CategoryState.reading.injEq] at reading
  subst reading
  refine ⟨?_, forall_mem_modify fileAgrees fun item itemPresent => ?_⟩
  · exact (map_modify_eq (FileLoad.file_deliver category _) files position).trans sameFiles
  · rw [present] at itemPresent
    cases itemPresent
    exact FileLoad.agrees_deliver (fileAgrees file (List.mem_of_getElem? present))

theorem outstanding_deliverFiles {load : CategoryLoad} (waiting : load.state = .waiting) :
    CategoryLoad.outstanding network
      (load.deliverFiles (load.backend.reply network (load.backend.filesUrl load.category))) + 1 =
      load.outstanding network := by
  rcases load with ⟨backend, category, state⟩
  simp only at waiting
  subst waiting
  simp only [deliverFiles, outstanding, sum_outstanding_toRead]
  rfl

theorem outstanding_deliverDocument {load : CategoryLoad} {files : List FileLoad}
    (reading : load.state = .reading files) {position : Nat} {file : FileLoad}
    (present : files[position]? = some file) (waiting : file.isWaiting = true) (reply : Reply) :
    (load.deliverDocument position reply).outstanding network + 1 = load.outstanding network := by
  rcases load with ⟨backend, category, state⟩
  simp only at reading
  subst reading
  exact sum_modify present (FileLoad.outstanding_deliver reply waiting)

/-- A category waits either for its directory or for some of its files. -/
theorem mem_pending_iff {load : CategoryLoad} {position : Nat} {slot : Slot} {pending : Pending} :
    (slot, pending) ∈ load.pending position ↔
      (load.state = .waiting ∧ slot = .files position ∧
        pending = ⟨load.backend, load.backend.filesUrl load.category⟩) ∨
      ∃ files index file, load.state = .reading files ∧ files[index]? = some file ∧
        file.isWaiting = true ∧ slot = .document position index ∧
        pending = ⟨load.backend, file.file.address⟩ := by
  rcases load with ⟨backend, category, _ | files⟩
  · simp [CategoryLoad.pending]
  · simp only [CategoryLoad.pending, List.mem_map, List.mem_filter, List.mem_zipIdx_iff_getElem?,
      Prod.mk.injEq, reduceCtorEq, false_and, false_or, CategoryState.reading.injEq]
    constructor
    · rintro ⟨⟨file, index⟩, ⟨present, waiting⟩, rfl, rfl⟩
      exact ⟨files, index, file, rfl, present, waiting, rfl, rfl⟩
    · rintro ⟨_, index, file, rfl, present, waiting, rfl, rfl⟩
      exact ⟨(file, index), ⟨present, waiting⟩, rfl, rfl⟩

theorem outstanding_of_pending_eq_nil {load : CategoryLoad} {position : Nat}
    (idle : load.pending position = []) : load.outstanding network = 0 := by
  rcases load with ⟨other, category, _ | files⟩
  · simp [CategoryLoad.pending] at idle
  · simp only [CategoryLoad.pending, List.map_eq_nil_iff, List.filter_eq_nil_iff, Prod.forall,
      List.mem_zipIdx_iff_getElem?] at idle
    refine sum_map_eq_zero_iff.mpr fun file fileMem => ?_
    rcases List.getElem?_of_mem fileMem with ⟨index, present⟩
    simpa [FileLoad.outstanding] using idle file index present

theorem configs_of_agrees {load : CategoryLoad} (agrees : load.Agrees network backend)
    (settled : load.outstanding network = 0) :
    load.configs = backend.offeredIn network load.category := by
  rcases load with ⟨other, category, _ | files⟩
  · simp [outstanding] at settled
  · rcases agrees.2 files rfl with ⟨sameFiles, fileAgrees⟩
    simp only [configs, Backend.offeredIn]
    rw [← sameFiles, List.filterMap_map]
    exact List.filterMap_congr fun file fileMem =>
      FileLoad.config?_of_agrees (fileAgrees file fileMem)
        (sum_map_eq_zero_iff.mp settled file fileMem)

end CategoryLoad

/-! ## The catalog -/

namespace Load

theorem readAll_ok (backend : Backend) (categories : List String) :
    (readAll (.ok backend) categories : Load Fault) =
      .reading (categories.map (CategoryLoad.start backend)) := by
  cases categories <;> rfl

theorem arrives_waiting {selected other : Backend} {next : Load Fault}
    (arrives : Arrives network (.ok selected) (.waiting other) next) :
    next = .reading ((other.categories network).map (CategoryLoad.start selected)) := by
  cases arrives with
  | one awaited =>
      simp only [Load.pending, List.mem_singleton, Prod.mk.injEq] at awaited
      rcases awaited with ⟨rfl, rfl⟩
      exact readAll_ok selected _

/-- While the catalog is read, the directory of a category or a file of a category arrives. -/
theorem arrives_reading {selected : Except Fault Backend} {categories : List CategoryLoad}
    {next : Load Fault} (arrives : Arrives network selected (.reading categories) next) :
    ∃ position category, categories[position]? = some category ∧
      ((category.state = .waiting ∧
        next = .reading (categories.modify position (CategoryLoad.deliverFiles
          (category.backend.reply network (category.backend.filesUrl category.category))))) ∨
      ∃ files index file, category.state = .reading files ∧ files[index]? = some file ∧
        file.isWaiting = true ∧
        next = .reading (categories.modify position (CategoryLoad.deliverDocument index
          (category.backend.reply network file.file.address)))) := by
  cases arrives with
  | one awaited =>
      simp only [Load.pending, List.mem_flatMap, Prod.exists,
        List.mem_zipIdx_iff_getElem?] at awaited
      rcases awaited with ⟨category, position, present, awaited⟩
      refine ⟨position, category, present, ?_⟩
      rcases CategoryLoad.mem_pending_iff.mp awaited with
        ⟨waiting, rfl, rfl⟩ | ⟨files, index, file, reading, filePresent, waiting, rfl, rfl⟩
      · exact .inl ⟨waiting, rfl⟩
      · exact .inr ⟨files, index, file, reading, filePresent, waiting, rfl⟩

theorem agrees_reading_start (backend : Backend) :
    (Load.reading ((backend.categories network).map (CategoryLoad.start backend)) :
      Load Fault).Agrees network backend := by
  refine ⟨by simp [Function.comp_def, CategoryLoad.start], fun category categoryMem => ?_⟩
  rcases List.mem_map.mp categoryMem with ⟨name, _, rfl⟩
  exact CategoryLoad.agrees_start name

theorem agrees_modify {categories : List CategoryLoad} {position : Nat}
    {change : CategoryLoad → CategoryLoad} {category : CategoryLoad}
    (agrees : (Load.reading categories : Load Fault).Agrees network backend)
    (keeps : ∀ load, (change load).category = load.category)
    (present : categories[position]? = some category)
    (changed : (change category).Agrees network backend) :
    (Load.reading (categories.modify position change) : Load Fault).Agrees network backend := by
  refine ⟨(map_modify_eq keeps categories position).trans agrees.1, ?_⟩
  refine forall_mem_modify agrees.2 fun item itemPresent => ?_
  rw [present] at itemPresent
  cases itemPresent
  exact changed

/-- What has been read agrees with the network after every reply. -/
theorem agrees_arrives {load next : Load Fault} (agrees : load.Agrees network backend)
    (arrives : Arrives network (.ok backend) load next) : next.Agrees network backend := by
  cases load with
  | stopped fault => exact agrees.elim
  | waiting other =>
      have same : other = backend := agrees
      rw [arrives_waiting arrives, same]
      exact agrees_reading_start backend
  | reading categories =>
      rcases arrives_reading arrives with ⟨position, category, present, arrived⟩
      have categoryAgrees := agrees.2 category (List.mem_of_getElem? present)
      rcases arrived with ⟨_, rfl⟩ | ⟨files, index, file, reading, filePresent, _, rfl⟩
      · exact agrees_modify agrees (CategoryLoad.category_deliverFiles _) present
          (CategoryLoad.agrees_deliverFiles categoryAgrees)
      · exact agrees_modify agrees (CategoryLoad.category_deliverDocument index _) present
          (CategoryLoad.agrees_deliverDocument categoryAgrees reading filePresent)

/-- Every reply leaves one request fewer to be answered. -/
theorem outstanding_arrives {load next : Load Fault} (agrees : load.Agrees network backend)
    (arrives : Arrives network (.ok backend) load next) :
    next.outstanding network + 1 = load.outstanding network := by
  cases load with
  | stopped fault => exact agrees.elim
  | waiting other =>
      have same : other = backend := agrees
      rw [arrives_waiting arrives, same]
      rfl
  | reading categories =>
      rcases arrives_reading arrives with ⟨position, category, present, arrived⟩
      rcases arrived with ⟨waiting, rfl⟩ | ⟨files, index, file, reading, filePresent, waiting, rfl⟩
      · exact sum_modify present (CategoryLoad.outstanding_deliverFiles waiting)
      · exact sum_modify present
          (CategoryLoad.outstanding_deliverDocument reading filePresent waiting _)

theorem outstanding_of_pending_eq_nil {load : Load Fault} (idle : load.pending = []) :
    load.outstanding network = 0 := by
  cases load with
  | waiting other => simp [Load.pending] at idle
  | stopped fault => rfl
  | reading categories =>
      simp only [Load.pending, List.flatMap_eq_nil_iff, Prod.forall,
        List.mem_zipIdx_iff_getElem?] at idle
      refine sum_map_eq_zero_iff.mpr fun category categoryMem => ?_
      rcases List.getElem?_of_mem categoryMem with ⟨position, present⟩
      exact CategoryLoad.outstanding_of_pending_eq_nil (idle category position present)

/-- When no request is left to be answered, all that the backend offers has been read. -/
theorem configs_of_agrees {load : Load Fault} (agrees : load.Agrees network backend)
    (settled : load.outstanding network = 0) : load.configs = backend.offered network := by
  cases load with
  | stopped fault => exact agrees.elim
  | waiting other => simp [outstanding] at settled
  | reading categories =>
      rcases agrees with ⟨sameCategories, categoryAgrees⟩
      rw [Backend.offered, ← sameCategories, List.flatMap_map, Load.configs]
      refine List.flatMap_congr fun category categoryMem => ?_
      exact CategoryLoad.configs_of_agrees (categoryAgrees category categoryMem)
        (sum_map_eq_zero_iff.mp settled category categoryMem)

/-- A load that can be reached by replies in any order. -/
def Reaches (network : Network) (backend : Backend) : Load Fault → Load Fault → Prop :=
  Relation.ReflTransGen (Arrives network (.ok backend))

theorem agrees_reaches {load final : Load Fault} (agrees : load.Agrees network backend)
    (reaches : Reaches network backend load final) : final.Agrees network backend := by
  induction reaches with
  | refl => exact agrees
  | tail _ arrives hypothesis => exact agrees_arrives hypothesis arrives

/-- Loading that has come to its end has read all that the backend offers. -/
theorem configs_of_reaches {final : Load Fault}
    (reaches : Reaches network backend (.waiting backend) final) (idle : final.pending = []) :
    final.configs = backend.offered network := by
  have agrees : (Load.waiting backend : Load Fault).Agrees network backend := rfl
  exact configs_of_agrees (agrees_reaches agrees reaches) (outstanding_of_pending_eq_nil idle)

/-- Loading comes to an end from everywhere. -/
theorem exists_reaches_idle {load : Load Fault} (agrees : load.Agrees network backend) :
    ∃ final, Reaches network backend load final ∧ final.pending = [] := by
  induction left : load.outstanding network using Nat.strongRecOn generalizing load with
  | ind count hypothesis =>
      cases awaited : load.pending with
      | nil => exact ⟨load, .refl, awaited⟩
      | cons first others =>
          have arrives : Arrives network (.ok backend) load
              (load.deliver (.ok backend) first.1 (first.2.fetch network).1) :=
            .one (by simp [awaited])
          have fewer := outstanding_arrives agrees arrives
          rcases hypothesis _ (by omega) (agrees_arrives agrees arrives) rfl with
            ⟨final, reaches, idle⟩
          exact ⟨final, .head arrives reaches, idle⟩

/-- No row of arriving replies is endless. -/
theorem not_endless {loads : Nat → Load Fault} (agrees : (loads 0).Agrees network backend) :
    ¬∀ time, Arrives network (.ok backend) (loads time) (loads (time + 1)) := by
  intro arrives
  have counted (time : Nat) : (loads time).Agrees network backend ∧
      (loads time).outstanding network + time = (loads 0).outstanding network := by
    induction time with
    | zero => exact ⟨agrees, rfl⟩
    | succ time hypothesis =>
        have fewer := outstanding_arrives hypothesis.1 (arrives time)
        exact ⟨agrees_arrives hypothesis.1 (arrives time), by omega⟩
  have beyond := (counted ((loads 0).outstanding network + 1)).2
  omega

end Load

end ImageCatalog.Catalog
