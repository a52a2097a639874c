import Lr35902.Console.Program
import Lr35902.Proofs.Files

/-!
# The stages of the program

What each stage of the program comes to, and the files it leaves: the options, the filter, the
cartridge, the two dumps, and the window. A stage that fails leaves the files as they are.
-/

namespace Lr35902

/-! ### Files for the program -/

namespace Files

variable {fs fs' : Files} {path : OsString} {image : ByteArray}

/-- Whether a file can be created, or emptied, under a path. -/
def Creatable (fs : Files) (path : OsString) : Prop := ∃ fs', fs.write path .empty = .ok fs'

theorem creatable_iff : fs.Creatable path ↔ ∃ l, fs.target? path = some l := by
  constructor
  · rintro ⟨fs', h⟩
    cases ht : fs.target? path with
    | some l => exact ⟨l, rfl⟩
    | none =>
      obtain ⟨e, he⟩ := write_of_no_target ht
      cases (he .empty).symm.trans h
  · rintro ⟨l, hl⟩
    exact ⟨_, write_of_target hl .empty⟩

theorem target?_of_not_creatable (h : ¬ fs.Creatable path) : fs.target? path = none := by
  cases ht : fs.target? path with
  | none => rfl
  | some l => exact absurd (creatable_iff.mpr ⟨l, ht⟩) h

def cartridge (fs : Files) (path : OsString) : Except CartridgeError Cartridge :=
  (Cartridge.ofFile ((fs.read path).map (·.data.toList))).value

/-- Why there is no cartridge in a file. -/
inductive LoadFails (fs : Files) (path : OsString) : CartridgeError → Prop where
  | unreadable {e : FileError} : fs.read path = .error e → LoadFails fs path (.unreadable e)
  | empty {image : ByteArray} : fs.read path = .ok image → image.size = 0 →
      LoadFails fs path .empty
  | tooLarge {image : ByteArray} : fs.read path = .ok image → 65536 < image.size →
      LoadFails fs path (.tooLarge image.size)

/-- The image of a cartridge is in a file. -/
structure Holds (fs : Files) (path : OsString) (image : ByteArray) : Prop where
  read : fs.read path = .ok image
  pos : 1 ≤ image.size
  size_le : image.size ≤ 65536

theorem LoadFails.not_holds {e : CartridgeError} (h : fs.LoadFails path e) :
    ¬ fs.Holds path image := by
  rintro ⟨hread, hpos, hle⟩
  cases h with
  | unreadable he => cases he.symm.trans hread
  | empty hread' hsize =>
    cases hread'.symm.trans hread
    omega
  | tooLarge hread' hsize =>
    cases hread'.symm.trans hread
    omega

theorem cartridge_of_read (h : fs.read path = .ok image) :
    fs.cartridge path = Cartridge.ofBytes image.data.toList := by
  unfold cartridge
  rw [h]
  show (Cartridge.ofFile (.ok image.data.toList)).value = _
  unfold Cartridge.ofFile
  cases hbytes : Cartridge.ofBytes image.data.toList <;> simp only [hbytes]

theorem length_toList (image : ByteArray) : image.data.toList.length = image.size :=
  image.data.length_toList

theorem cartridge_of_holds (h : fs.Holds path image) :
    ∃ c : Cartridge, fs.cartridge path = .ok c ∧ c.bytes = image.data.toList := by
  have hne : image.data.toList ≠ [] := by
    rw [← List.length_pos_iff, length_toList]
    exact h.pos
  have hle : image.data.toList.length ≤ 65536 := length_toList image ▸ h.size_le
  refine ⟨⟨image.data.toList, hne, hle⟩, ?_, rfl⟩
  rw [cartridge_of_read h.read]
  unfold Cartridge.ofBytes
  rw [dif_neg hne, dif_pos hle]

theorem cartridge_of_empty (h : fs.read path = .ok image) (hsize : image.size = 0) :
    fs.cartridge path = .error .empty := by
  have hnil : image.data.toList = [] := by
    rw [← List.length_eq_zero_iff, length_toList]
    exact hsize
  rw [cartridge_of_read h]
  exact dif_pos hnil

theorem cartridge_of_too_large (h : fs.read path = .ok image) (hsize : 65536 < image.size) :
    fs.cartridge path = .error (.tooLarge image.size) := by
  have hlen := length_toList image
  have hne : image.data.toList ≠ [] := by
    rw [← List.length_pos_iff, hlen]
    omega
  rw [cartridge_of_read h]
  unfold Cartridge.ofBytes
  rw [dif_neg hne, dif_neg (by omega), hlen]

/-- Either there is a cartridge in a file, or there is a reason why not. -/
theorem holds_or_loadFails (fs : Files) (path : OsString) :
    (∃ image, fs.Holds path image) ∨
      ∃ e, fs.LoadFails path e ∧ fs.cartridge path = .error e := by
  cases hread : fs.read path with
  | error e =>
    refine .inr ⟨.unreadable e, .unreadable hread, ?_⟩
    unfold cartridge
    rw [hread]
    rfl
  | ok image =>
    rcases Nat.eq_zero_or_pos image.size with hzero | hpos
    · exact .inr ⟨.empty, .empty hread hzero, cartridge_of_empty hread hzero⟩
    · rcases Nat.lt_or_ge 65536 image.size with hlarge | hle
      · exact .inr ⟨_, .tooLarge hread hlarge, cartridge_of_too_large hread hlarge⟩
      · exact .inl ⟨image, hread, hpos, hle⟩

end Files

namespace Program

variable {α β : Type} {x : ExceptT Ending (StateM Files) α}
  {f : α → ExceptT Ending (StateM Files) β} {fs fs' : Files} {lib : Libraries}
  {words : List OsString} {o : Options}

/-- What a part of the program comes to, and the files it leaves. -/
def perform (x : ExceptT Ending (StateM Files) α) (fs : Files) : Except Ending α × Files :=
  Id.run (x.run.run fs)

/-- The program on some files: how it ends, and the files it leaves. -/
def onFiles (lib : Libraries) (words : List OsString) (fs : Files) : Ending × Files :=
  Id.run ((run lib words : StateM Files Ending).run fs)

theorem perform_bind_ok {a : α} (h : perform x fs = (.ok a, fs')) :
    perform (x >>= f) fs = perform (f a) fs' := by
  show ExceptT.bindCont f (perform x fs).1 (perform x fs).2 = _
  rw [h]
  rfl

theorem perform_bind_error {e : Ending} (h : perform x fs = (.error e, fs')) :
    perform (x >>= f) fs = (.error e, fs') := by
  show ExceptT.bindCont f (perform x fs).1 (perform x fs).2 = _
  rw [h]
  rfl

theorem run_bind_of_perform {k : Except Ending α → StateM Files β} {r : Except Ending α}
    (h : perform x fs = (r, fs')) : Id.run ((x.run >>= k).run fs) = Id.run ((k r).run fs') := by
  show Id.run ((k (perform x fs).1).run (perform x fs).2) = _
  rw [h]

theorem onFiles_of_error {e : Ending} (h : perform (prepare lib words) fs = (.error e, fs')) :
    onFiles lib words fs = (e, fs') := run_bind_of_perform h

theorem onFiles_of_ok {c : Cpu} (h : perform (prepare lib words) fs = (.ok (o, c), fs')) :
    onFiles lib words fs = (finish lib o c, fs') := run_bind_of_perform h

/-- An access to the files always comes to something. -/
theorem perform_liftM (y : StateM Files α) (fs : Files) :
    perform (liftM y) fs = (.ok (y.run fs).1, (y.run fs).2) := rfl

/-- If the filter that was given passes, the one that counts does. -/
theorem judge_of_given (hlib : lib.judge.Documented) {g : Options.Given}
    (h : ∀ filter ∈ g.log, lib.judge filter = none) :
    ∀ filter ∈ (Options.ofGiven g).logFilter, lib.judge filter = none := by
  intro filter hfilter
  change filter ∈ (g.log <|> if g.trace then some Options.traceFilter else none) at hfilter
  cases hlog : g.log with
  | some given =>
    rw [hlog] at hfilter
    cases hfilter
    exact h filter hlog
  | none =>
    rw [hlog] at hfilter
    cases htrace : g.trace with
    | true =>
      rw [htrace] at hfilter
      cases hfilter
      exact hlib.level "trace" (by decide)
    | false =>
      rw [htrace] at hfilter
      cases hfilter

/-- The stages behind the cartridge. -/
def dumps (o : Options) (c : Cpu) : ExceptT Ending (StateM Files) (Options × Cpu) := do
  dump o.dumpMemory fun _ => MemoryDump.text c.mem
  dump o.dumpOpcodes fun _ => c.mem.listingText c.regs.pc.toNat
  if o.window then
    throw (.failed .noWindow)
  return (o, c)

theorem perform_prepare_of_stop {stop : Stop} (h : lib.options words = .error stop) :
    perform (prepare lib words) fs = (.error (.stopped stop), fs) := by
  unfold prepare
  rw [h]
  rfl

theorem perform_prepare_of_filter {filter : String} {complaint : List String}
    (h : lib.options words = .ok o) (hfilter : o.logFilter = some filter)
    (hc : lib.judge filter = some complaint) :
    perform (prepare lib words) fs =
      (.error (.failed (.invalidLogFilter filter complaint)), fs) := by
  unfold prepare
  simp only [h, pure_bind, hfilter, hc]
  rfl

theorem perform_prepare (h : lib.options words = .ok o)
    (hfilter : ∀ filter ∈ o.logFilter, lib.judge filter = none) :
    perform (prepare lib words) fs =
      perform (cartridge o >>= fun cartridge => dumps o (Cpu.ofMemory cartridge.memory)) fs := by
  unfold prepare
  cases hf : o.logFilter with
  | none =>
    simp only [h, pure_bind, hf]
    rfl
  | some filter =>
    simp only [h, pure_bind, hf, hfilter filter hf]
    rfl

/-! ### The cartridge -/

theorem perform_cartridge_none (h : o.rom = none) :
    perform (cartridge o) fs = (.error (.failed .noCartridge), fs) := by
  unfold cartridge
  rw [h]
  rfl

theorem run_read (path : OsString) (fs : Files) :
    (FileSystem.read path : StateM Files (Except FileError ByteArray)).run fs =
      (fs.read path, fs) := rfl

theorem perform_cartridge {path : OsString} {c : Cartridge} (h : o.rom = some path)
    (hc : fs.cartridge path = .ok c) : perform (cartridge o) fs = (.ok c, fs) := by
  unfold cartridge
  rw [h]
  refine (perform_bind_ok (perform_liftM _ fs)).trans ?_
  change (Cartridge.ofFile ((fs.read path).map (·.data.toList))).value = .ok c at hc
  rw [run_read, hc]
  rfl

theorem perform_cartridge_of_error {path : OsString} {e : CartridgeError} (h : o.rom = some path)
    (he : fs.cartridge path = .error e) :
    perform (cartridge o) fs = (.error (.failed (.cartridgeNotLoaded path e)), fs) := by
  unfold cartridge
  rw [h]
  refine (perform_bind_ok (perform_liftM _ fs)).trans ?_
  change (Cartridge.ofFile ((fs.read path).map (·.data.toList))).value = .error e at he
  rw [run_read, he]
  rfl

/-! ### A dump -/

theorem run_write {path : OsString} {content : ByteArray} (h : fs.write path content = .ok fs') :
    (FileSystem.write path content : StateM Files (Except FileError Unit)).run fs =
      (.ok (), fs') := by
  simp only [FileSystem.write, StateT.run_bind, StateT.run_get, pure_bind, h]
  rfl

theorem run_write_of_error {path : OsString} {content : ByteArray} {e : FileError}
    (h : fs.write path content = .error e) :
    (FileSystem.write path content : StateM Files (Except FileError Unit)).run fs =
      (.error e, fs) := by
  simp only [FileSystem.write, StateT.run_bind, StateT.run_get, pure_bind, h]
  rfl

theorem perform_dump_of_creatable {path : Option OsString} (h : ∀ p ∈ path, fs.Creatable p)
    (text : Unit → String) :
    ∃ fs', perform (dump path text) fs = (.ok (), fs') ∧
      fs.Gains (path.bind fs.target?) (text ()).toUTF8 fs' := by
  cases path with
  | none => exact ⟨fs, rfl, fs.gains_nothing _⟩
  | some path =>
    obtain ⟨l, hl⟩ := Files.creatable_iff.mp (h path rfl)
    refine ⟨fs.place l (text ()).toUTF8, ?_, ?_⟩
    · refine (perform_bind_ok (perform_liftM _ fs)).trans ?_
      rw [run_write (Files.write_of_target hl _)]
      rfl
    · rw [Option.bind_some, hl]
      exact Files.gains_place hl _

theorem perform_dump_of_not_creatable {path : OsString} (h : ¬ fs.Creatable path)
    (text : Unit → String) :
    ∃ e, (∀ content, fs.write path content = .error e) ∧
      perform (dump (some path) text) fs = (.error (.failed (.fileNotCreated path e)), fs) := by
  obtain ⟨e, he⟩ := Files.write_of_no_target (Files.target?_of_not_creatable h)
  refine ⟨e, he, (perform_bind_ok (perform_liftM _ fs)).trans ?_⟩
  rw [run_write_of_error (he _)]
  rfl

/-! ### Both dumps -/

/-- How the files stand when the dumps that there are paths for have been written. -/
structure Dumped (memoryPath listingPath : Option OsString) (mem : Memory) (fs fs' : Files) :
    Prop where
  listing : ∀ p ∈ listingPath, fs'.read p = .ok (mem.listingText 0x0100).toUTF8
  /-- The listing takes the place of the other dump if both paths lead to one place. -/
  memory : ∀ p ∈ memoryPath, (∀ q ∈ listingPath, fs.target? q ≠ fs.target? p) →
    fs'.read p = .ok (MemoryDump.text mem).toUTF8
  others : ∀ l, (∀ p ∈ memoryPath, fs.target? p ≠ some l) →
    (∀ p ∈ listingPath, fs.target? p ≠ some l) → fs'.content? l = fs.content? l
  target : ∀ p, fs'.target? p = fs.target? p
  isDirectory : ∀ l, fs'.isDirectory l = fs.isDirectory l

theorem creatable_of_gains {place? : Option Location} {content : ByteArray}
    (h : fs.Gains place? content fs') {p : OsString} : fs'.Creatable p ↔ fs.Creatable p := by
  rw [Files.creatable_iff, Files.creatable_iff, h.target]

variable {mem : Memory} {fs₁ : Files} {memoryPath listingPath : Option OsString}

theorem dumped_of_gains (hm : ∀ p ∈ memoryPath, fs.Creatable p)
    (hl : ∀ p ∈ listingPath, fs.Creatable p)
    (h₁ : fs.Gains (memoryPath.bind fs.target?) (MemoryDump.text mem).toUTF8 fs₁)
    (h₂ : fs₁.Gains (listingPath.bind fs₁.target?) (mem.listingText 0x0100).toUTF8 fs') :
    Dumped memoryPath listingPath mem fs fs' where
  listing p hp := by
    cases hp
    obtain ⟨l, hplace⟩ := Files.creatable_iff.mp (hl p rfl)
    rw [Option.bind_some, h₁.target, hplace] at h₂
    exact h₂.read ((h₁.target p).trans hplace)
  memory p hp hne := by
    cases hp
    obtain ⟨l, hplace⟩ := Files.creatable_iff.mp (hm p rfl)
    rw [Option.bind_some, hplace] at h₁
    refine h₂.read_of_ne ?_ (h₁.read hplace)
    cases listingPath with
    | none =>
      rw [h₁.target, hplace]
      exact nofun
    | some q =>
      rw [Option.bind_some, h₁.target, h₁.target]
      exact hne q rfl
  others l hm' hl' := by
    have hne₂ : listingPath.bind fs₁.target? ≠ some l := by
      cases listingPath with
      | none => exact nofun
      | some q =>
        rw [Option.bind_some, h₁.target]
        exact hl' q rfl
    have hne₁ : memoryPath.bind fs.target? ≠ some l := by
      cases memoryPath with
      | none => exact nofun
      | some p => exact hm' p rfl
    rw [h₂.content, if_neg hne₂, h₁.content, if_neg hne₁]
  target p := (h₂.target p).trans (h₁.target p)
  isDirectory l := (h₂.isDirectory l).trans (h₁.isDirectory l)

theorem perform_dumps_of_memory {p : OsString} (hp : o.dumpMemory = some p)
    (h : ¬ fs.Creatable p) (c : Cpu) :
    ∃ e, (∀ content, fs.write p content = .error e) ∧
      perform (dumps o c) fs = (.error (.failed (.fileNotCreated p e)), fs) := by
  unfold dumps
  rw [hp]
  obtain ⟨e, he, hdump⟩ := perform_dump_of_not_creatable h fun _ => MemoryDump.text c.mem
  exact ⟨e, he, perform_bind_error hdump⟩

theorem perform_dumps_of_listing (hm : ∀ p ∈ o.dumpMemory, fs.Creatable p) {p : OsString}
    (hp : o.dumpOpcodes = some p) (h : ¬ fs.Creatable p) (mem : Memory) :
    ∃ e fs', (∀ content, fs'.write p content = .error e) ∧ Dumped o.dumpMemory none mem fs fs' ∧
      perform (dumps o (.ofMemory mem)) fs = (.error (.failed (.fileNotCreated p e)), fs') := by
  unfold dumps
  rw [hp]
  obtain ⟨fs', hdump, hgains⟩ := perform_dump_of_creatable hm fun _ => MemoryDump.text mem
  obtain ⟨e, he, hfails⟩ := perform_dump_of_not_creatable (mt (creatable_of_gains hgains).mp h)
    fun _ => mem.listingText 0x0100
  refine ⟨e, fs', he, dumped_of_gains hm nofun hgains (fs'.gains_nothing _), ?_⟩
  exact (perform_bind_ok hdump).trans (perform_bind_error hfails)

theorem perform_dumps (hm : ∀ p ∈ o.dumpMemory, fs.Creatable p)
    (hl : ∀ p ∈ o.dumpOpcodes, fs.Creatable p) (mem : Memory) :
    ∃ fs', Dumped o.dumpMemory o.dumpOpcodes mem fs fs' ∧
      perform (dumps o (.ofMemory mem)) fs =
        (if o.window then .error (.failed .noWindow) else .ok (o, .ofMemory mem), fs') := by
  unfold dumps
  obtain ⟨fs₁, hdump₁, hgains₁⟩ := perform_dump_of_creatable hm fun _ => MemoryDump.text mem
  obtain ⟨fs₂, hdump₂, hgains₂⟩ := perform_dump_of_creatable
    (fun p hp => (creatable_of_gains hgains₁).mpr (hl p hp)) fun _ => mem.listingText 0x0100
  refine ⟨fs₂, dumped_of_gains hm hl hgains₁ hgains₂, ?_⟩
  refine (perform_bind_ok hdump₁).trans ((perform_bind_ok hdump₂).trans ?_)
  cases o.window <;> rfl

end Program

end Lr35902
