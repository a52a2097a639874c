import Mathlib.Data.List.Nodup
import Lr35902.Proofs.Arguments

/-!
# Command lines

A command line is written phrase by phrase: each gives one thing, by an option, a switch or the
operand (`Spells`). A parser that does as documented adds what a phrase gives (`parse_phrase`), so
that a whole command line that gives nothing twice gives what its phrases do, in whatever order and
spelling they come (`parse_of_spells`). This is how all options that name no empty path can be asked
for (`every_spelling_is_read`).
-/

namespace Lr35902.Options

/-! ### What is given -/

namespace Given

variable {g g' : Given} {x y : Gift}

def Has (g : Given) : Gift → Prop
  | .rom path => g.rom = some path
  | .maxSteps n => g.maxSteps = some n
  | .log filter => g.log = some filter
  | .dumpMemory path => g.dumpMemory = some path
  | .dumpOpcodes path => g.dumpOpcodes = some path
  | .trace => g.trace = true
  | .json => g.json = true
  | .window => g.window = true

/-- All that is given. -/
def gifts (g : Given) : List Gift :=
  [g.rom.map .rom, g.maxSteps.map .maxSteps, g.log.map .log, g.dumpMemory.map .dumpMemory,
    g.dumpOpcodes.map .dumpOpcodes, if g.trace then some .trace else none,
    if g.json then some .json else none, if g.window then some .window else none].filterMap id

theorem mem_gifts : x ∈ g.gifts ↔ g.Has x := by
  have hmap {α : Type} (o : Option α) (mk : α → Gift) :
      some x = o.map mk ↔ ∃ v, o = some v ∧ mk v = x := by
    rw [eq_comm, Option.map_eq_some_iff]
  cases x <;> simp [gifts, Has, hmap]

theorem nodup_gifts (g : Given) : g.gifts.Nodup := by
  rw [List.Nodup, gifts, List.pairwise_filterMap]
  simp

theorem ext_has (h : ∀ x, g.Has x ↔ g'.Has x) : g = g' := by
  have hon {b b' : Bool} (h : b = true ↔ b' = true) : b = b' := Bool.eq_iff_iff.mpr h
  cases g
  cases g'
  rw [Given.mk.injEq]
  exact ⟨Option.ext fun path => h (.rom path), Option.ext fun n => h (.maxSteps n),
    Option.ext fun filter => h (.log filter), Option.ext fun path => h (.dumpMemory path),
    Option.ext fun path => h (.dumpOpcodes path), hon (h .trace), hon (h .json), hon (h .window)⟩

theorem has_give (h : g.Lacks x) : (g.give x).Has y ↔ y = x ∨ g.Has y := by
  cases x <;> cases y <;> simp_all [Lacks, give, Has] <;> exact eq_comm

/-- What is given in the end and has not been given yet finds its place free. -/
theorem lacks_of_has (hx : g'.Has x) (hsub : ∀ y, g.Has y → g'.Has y) (hnew : ¬ g.Has x) :
    g.Lacks x := by
  have hfree {α : Type} {old new : Option α} {v : α} (hv : new = some v)
      (hsub : ∀ w, old = some w → new = some w) (hnew : old ≠ some v) : old = none := by
    refine Option.eq_none_iff_forall_ne_some.mpr fun w hw => hnew ?_
    rw [hw, ← hsub w hw, hv]
  cases x with
  | rom path => exact hfree hx (fun path => hsub (.rom path)) hnew
  | maxSteps n => exact hfree hx (fun n => hsub (.maxSteps n)) hnew
  | log filter => exact hfree hx (fun filter => hsub (.log filter)) hnew
  | dumpMemory path => exact hfree hx (fun path => hsub (.dumpMemory path)) hnew
  | dumpOpcodes path => exact hfree hx (fun path => hsub (.dumpOpcodes path)) hnew
  | trace | json | window => exact Bool.eq_false_iff.mpr hnew

end Given

/-! ### Phrases -/

/-- The words that give one thing: an option with its value in the same word or, unless the value
begins with a dash, in the next; an option alone; or the operand. -/
inductive Spelling : Gift → List OsString → Prop
  | joined {x : Gift} {name : String} {value : OsString} (hname : x.option? = some name)
    (hvalue : x.WrittenAs value) : Spelling x [Parser.joined name value]
  | apart {x : Gift} {name : String} {value : OsString} (hname : x.option? = some name)
    (hvalue : x.WrittenAs value) (hdash : ¬ Parser.Dashed value) :
    Spelling x [Parser.option name, value]
  | switch {x : Gift} {name : String} (hname : x.option? = some name) (hx : x.isSwitch = true) :
    Spelling x [Parser.option name]
  | operand {path : OsString} (hpath : path ≠ []) (hdash : ¬ Parser.Dashed path) :
    Spelling (.rom path) [path]

/-- The words that give some things one after the other. The operand, whatever it begins with, may
be the last of them behind the separator. -/
inductive Spells : List Gift → List OsString → Prop
  | done : Spells [] []
  | last {path : OsString} (hpath : path ≠ []) : Spells [.rom path] [Parser.separator, path]
  | next {x : Gift} {xs : List Gift} {phrase words : List OsString} (hx : Spelling x phrase)
    (hxs : Spells xs words) : Spells (x :: xs) (phrase ++ words)

variable {parse : Parser} {g g₀ : Given} {x : Gift} {xs : List Gift}
  {words phrase before : List OsString}

theorem separator_not_mem_phrase (h : Spelling x phrase) : Parser.separator ∉ phrase := by
  have hdashed {word : OsString} (h : ¬ Parser.Dashed word) : Parser.separator ≠ word := by
    rintro rfl
    exact h rfl
  have hoption {name : String} (h : x.option? = some name) :
      Parser.separator ≠ Parser.option name := by
    cases x <;> cases h <;> decide
  cases h with
  | @joined _ name value hname hvalue =>
    rw [List.mem_singleton]
    intro h
    have hlength := congrArg List.length h
    have htwo : (OsString.ofText "--").length = 2 := rfl
    have hone : (OsString.ofText "=").length = 1 := rfl
    simp only [Parser.separator, Parser.joined, OsString.ofText_append, List.length_append]
      at hlength
    omega
  | apart hname hvalue hdash =>
    rw [List.mem_cons, List.mem_singleton, not_or]
    exact ⟨hoption hname, hdashed hdash⟩
  | switch hname hx =>
    rw [List.mem_singleton]
    exact hoption hname
  | operand hpath hdash =>
    rw [List.mem_singleton]
    exact hdashed hdash

/-- A phrase behind words that can be read adds what it gives. -/
theorem parse_phrase (hparse : parse.Documented) (hbefore : parse before = .ok g)
    (hsep : Parser.separator ∉ before) (hx : Spelling x phrase) (hnew : g.Lacks x) :
    parse (before ++ phrase) = .ok (g.give x) := by
  cases hx with
  | joined hname hvalue => exact hparse.joined hbefore hsep hnew hname hvalue
  | apart hname hvalue hdash => exact hparse.apart hbefore hsep hnew hname hvalue hdash
  | switch hname hswitch => exact hparse.switch hbefore hsep hnew hname hswitch
  | operand hpath hdash => exact hparse.operand hbefore hsep hnew hpath hdash

theorem lacks_of_mem (hall : ∀ y, g.Has y ↔ y ∈ xs ∨ g₀.Has y) (hnew : ∀ y ∈ xs, ¬ g₀.Has y)
    (hx : x ∈ xs) : g₀.Lacks x :=
  Given.lacks_of_has ((hall x).mpr (.inl hx)) (fun y hy => (hall y).mpr (.inr hy)) (hnew x hx)

/-- Reading a command line gives what its phrases say, unless one of them gives something for what
has been given before. -/
theorem parse_of_spells (hparse : parse.Documented) (hbefore : parse before = .ok g₀)
    (hsep : Parser.separator ∉ before) (hwords : Spells xs words) (hxs : xs.Nodup)
    (hnew : ∀ x ∈ xs, ¬ g₀.Has x) (hall : ∀ x, g.Has x ↔ x ∈ xs ∨ g₀.Has x) :
    parse (before ++ words) = .ok g := by
  -- What has been given grows by one thing with each phrase and stays apart from what follows.
  induction hwords generalizing before g₀ with
  | done =>
    obtain rfl : g₀ = g := Given.ext_has fun x => by simp [hall]
    rwa [List.append_nil]
  | last hpath =>
    have hrom := lacks_of_mem hall hnew (List.mem_singleton_self _)
    rw [hparse.separated hbefore hsep hrom hpath]
    refine congrArg Except.ok (Given.ext_has fun y => ?_)
    rw [Given.has_give hrom, hall, List.mem_singleton]
  | @next x xs phrase words hx _ ih =>
    have hfirst := lacks_of_mem hall hnew List.mem_cons_self
    rw [List.nodup_cons] at hxs
    rw [← List.append_assoc]
    have hhas (y : Gift) : (g₀.give x).Has y ↔ y = x ∨ g₀.Has y := Given.has_give hfirst
    have hsep' : Parser.separator ∉ before ++ phrase := by
      rw [List.mem_append, not_or]
      exact ⟨hsep, separator_not_mem_phrase hx⟩
    have hnew' : ∀ y ∈ xs, ¬ (g₀.give x).Has y := by
      intro y hy hgiven
      rcases (hhas y).mp hgiven with rfl | hold
      · exact hxs.1 hy
      · exact hnew y (List.mem_cons_of_mem x hy) hold
    have hall' (y : Gift) : g.Has y ↔ y ∈ xs ∨ (g₀.give x).Has y := by
      rw [hall, hhas, List.mem_cons]
      tauto
    exact ih (parse_phrase hparse hbefore hsep hx hfirst) hsep' hxs.2 hnew' hall'

/-! ### Asking for options -/

/-- What is given to ask for the options, the filter as it is. -/
def given (o : Options) : Given where
  rom := o.rom
  maxSteps := o.maxSteps
  log := o.logFilter
  dumpMemory := o.dumpMemory
  dumpOpcodes := o.dumpOpcodes
  json := o.json
  window := o.window

/-- What is given to ask for the options and a trace. -/
def tracedGiven (o : Options) : Given := { o.given with trace := true }

@[simp] theorem ofGiven_given (o : Options) : ofGiven o.given = o := by
  cases o with
  | mk _ _ logFilter => cases logFilter <;> rfl

theorem ofGiven_tracedGiven_of_some {o : Options} {filter : String}
    (h : o.logFilter = some filter) : ofGiven o.tracedGiven = o := by
  cases o
  cases h
  rfl

theorem ofGiven_tracedGiven_of_none {o : Options} (h : o.logFilter = none) :
    ofGiven o.tracedGiven = { o with logFilter := some "gameboy_cpu=trace" } := by
  cases o
  cases h
  rfl

theorem gifts_tracedGiven (o : Options) :
    o.tracedGiven.gifts.Perm (.trace :: o.given.gifts) := by
  have hlacks : o.given.Lacks .trace := rfl
  have hnew : .trace ∉ o.given.gifts := fun h => nomatch Given.mem_gifts.mp h
  rw [List.perm_ext_iff_of_nodup (Given.nodup_gifts _) (o.given.nodup_gifts.cons hnew)]
  intro x
  rw [Given.mem_gifts, List.mem_cons, Given.mem_gifts]
  exact Given.has_give hlacks

/-- The words that ask for the options and give nothing else and nothing twice, in any order. -/
def AskedBy (o : Options) (words : List OsString) : Prop :=
  ∃ xs : List Gift, xs.Perm o.given.gifts ∧ Spells xs words

/-- The word that asks for a trace put before, between or behind the phrases of a command line. -/
inductive TraceAdded : List Gift → List OsString → List OsString → Prop
  | here {xs : List Gift} {words : List OsString} (hxs : Spells xs words) :
    TraceAdded xs words (Parser.option "trace" :: words)
  | later {x : Gift} {xs : List Gift} {phrase words words' : List OsString}
    (hx : Spelling x phrase) (hxs : TraceAdded xs words words') :
    TraceAdded (x :: xs) (phrase ++ words) (phrase ++ words')

/-- The second command line asks for the options as the first does, and for a trace besides. -/
def TracedBy (o : Options) (words words' : List OsString) : Prop :=
  ∃ xs : List Gift, xs.Perm o.given.gifts ∧ TraceAdded xs words words'

def NoEmptyPath (o : Options) : Prop :=
  o.rom ≠ some [] ∧ o.dumpMemory ≠ some [] ∧ o.dumpOpcodes ≠ some []

instance : DecidablePred NoEmptyPath := fun _ => inferInstanceAs (Decidable (_ ∧ _ ∧ _))

theorem TraceAdded.spells {words' : List OsString} (h : TraceAdded xs words words') :
    Spells xs words ∧ ∃ ys, ys.Perm (.trace :: xs) ∧ Spells ys words' := by
  induction h with
  | @here xs words hxs => exact ⟨hxs, _, .rfl, .next (.switch rfl rfl) hxs⟩
  | @later x xs phrase words words' hx _ ih =>
    obtain ⟨hwords, ys, hys, hwords'⟩ := ih
    exact ⟨.next hx hwords, x :: ys, (hys.cons x).trans (.swap ..), .next hx hwords'⟩

variable {lib : Libraries} {o : Options}

/-- Phrases that give what is given, each thing once, are read as that, in whatever order. -/
theorem options_of_spells (hlib : lib.parse.Documented) (hxs : xs.Perm g.gifts)
    (hwords : Spells xs words) : lib.options words = .ok (ofGiven g) := by
  have hnothing (y : Gift) : ¬ ({} : Given).Has y := by
    cases y <;> nofun
  have hall (y : Gift) : g.Has y ↔ y ∈ xs ∨ ({} : Given).Has y := by
    rw [hxs.mem_iff, Given.mem_gifts, or_iff_left (hnothing y)]
  have hparse : lib.parse ([] ++ words) = .ok g :=
    parse_of_spells hlib hlib.nothing List.not_mem_nil hwords (hxs.nodup_iff.mpr g.nodup_gifts)
      (fun y _ => hnothing y) hall
  rw [Libraries.options, ← List.nil_append words, hparse]
  rfl

theorem options_of_askedBy (hlib : lib.parse.Documented) (h : o.AskedBy words) :
    lib.options words = .ok o := by
  obtain ⟨xs, hxs, hwords⟩ := h
  rw [options_of_spells hlib hxs hwords, ofGiven_given]

theorem exists_spelling (hpaths : o.NoEmptyPath) (hx : o.given.Has x)
    (hrom : ∀ path, x ≠ .rom path) : ∃ phrase, Spelling x phrase := by
  obtain ⟨-, hmemory, hopcodes⟩ := hpaths
  cases x with
  | rom path => exact absurd rfl (hrom path)
  | maxSteps n =>
    refine ⟨_, .joined rfl ⟨Numeral.decimal n.toNat, rfl, ?_⟩⟩
    rw [Numeral.decimal, String.toList_ofList, Numeral.readUnsigned_toDigits]
  | log filter => exact ⟨_, .joined rfl rfl⟩
  | dumpMemory path => exact ⟨_, .joined rfl ⟨rfl, fun h => hmemory (h ▸ hx)⟩⟩
  | dumpOpcodes path => exact ⟨_, .joined rfl ⟨rfl, fun h => hopcodes (h ▸ hx)⟩⟩
  | trace | json | window => exact ⟨_, .switch rfl rfl⟩

theorem exists_spells_append {ys : List Gift} (hys : Spells ys words)
    (hxs : ∀ x ∈ xs, ∃ phrase, Spelling x phrase) : ∃ words', Spells (xs ++ ys) words' := by
  induction xs with
  | nil => exact ⟨words, hys⟩
  | cons x xs ih =>
    rw [List.forall_mem_cons] at hxs
    obtain ⟨phrase, hphrase⟩ := hxs.1
    obtain ⟨words', hwords'⟩ := ih hxs.2
    exact ⟨phrase ++ words', .next hphrase hwords'⟩

/-- All options can be asked for, with the operand behind the others. -/
theorem exists_askedBy (hpaths : o.NoEmptyPath) : ∃ words, o.AskedBy words := by
  cases hrom : o.rom with
  | none =>
    have hothers : ∀ x ∈ o.given.gifts, ∃ phrase, Spelling x phrase := by
      intro x hx
      refine exists_spelling hpaths (Given.mem_gifts.mp hx) ?_
      rintro path rfl
      cases hrom.symm.trans (Given.mem_gifts.mp hx)
    obtain ⟨words, hwords⟩ := exists_spells_append .done hothers
    exact ⟨words, _, by rw [List.append_nil], hwords⟩
  | some path =>
    -- Behind the separator the operand may be any path, so it is put last.
    have hmem : .rom path ∈ o.given.gifts := Given.mem_gifts.mpr hrom
    have hothers : ∀ x ∈ o.given.gifts.erase (.rom path), ∃ phrase, Spelling x phrase := by
      intro x hx
      obtain ⟨hne, hx⟩ := o.given.nodup_gifts.mem_erase_iff.mp hx
      refine exists_spelling hpaths (Given.mem_gifts.mp hx) ?_
      rintro path' rfl
      cases hrom.symm.trans (Given.mem_gifts.mp hx)
      exact hne rfl
    have hpath : path ≠ [] := fun h => hpaths.1 (h ▸ hrom)
    obtain ⟨words, hwords⟩ := exists_spells_append (.last hpath) hothers
    exact ⟨words, _, List.perm_append_comm.trans (List.perm_cons_erase hmem).symm, hwords⟩

/-- All options without an empty path can be asked for, and whatever words ask for them, in any
order and with any spelling of each, are read as them. Asking for a trace besides changes nothing if
there is a filter; if there is none, it is the same as asking for the filter that lets every event
through. -/
theorem every_spelling_is_read (hlib : lib.parse.Documented) (hpaths : o.NoEmptyPath) :
    (∃ words, o.AskedBy words) ∧
    (∀ words, o.AskedBy words → lib.options words = .ok o) ∧
    ∀ words words', o.TracedBy words words' →
      (o.logFilter ≠ none → lib.options words' = lib.options words ∧
        lib.options words' = .ok o) ∧
      (o.logFilter = none → ∀ words'',
        { o with logFilter := some "gameboy_cpu=trace" }.AskedBy words'' →
          lib.options words' = lib.options words'' ∧
          lib.options words' = .ok { o with logFilter := some "gameboy_cpu=trace" }) := by
  refine ⟨exists_askedBy hpaths, fun _ => options_of_askedBy hlib, fun words words' htraced => ?_⟩
  obtain ⟨xs, hxs, hadded⟩ := htraced
  obtain ⟨hwords, ys, hys, hwords'⟩ := hadded.spells
  have htrace : lib.options words' = .ok (ofGiven o.tracedGiven) :=
    options_of_spells hlib ((hys.trans (hxs.cons _)).trans o.gifts_tracedGiven.symm) hwords'
  constructor
  · intro hfilter
    obtain ⟨filter, hfilter⟩ := Option.ne_none_iff_exists'.mp hfilter
    rw [ofGiven_tracedGiven_of_some hfilter] at htrace
    exact ⟨htrace.trans (options_of_askedBy hlib ⟨xs, hxs, hwords⟩).symm, htrace⟩
  · intro hfilter words'' hwords''
    rw [ofGiven_tracedGiven_of_none hfilter] at htrace
    exact ⟨htrace.trans (options_of_askedBy hlib hwords'').symm, htrace⟩

/-- Options with a path that is not text, read by the parser of the executable. -/
theorem every_spelling_is_read_mixed :
    let text := OsString.ofText
    let o : Options := ⟨some (text "-r.gb"), some 5, some "a=b", true, some [0xFF], none, false⟩
    let words := [text "--log=a=b", text "--json", text "--dump-memory", [0xFF], text "--",
      text "-r.gb"]
    let steps := [text "--max-steps", text "005"]
    o.NoEmptyPath ∧ o.AskedBy (steps ++ words) ∧
      Host.libraries.options (steps ++ words) = .ok o ∧
      Host.libraries.options (steps ++ text "--trace" :: words) = .ok o := by
  intro text o words steps
  have hsteps : Spelling (.maxSteps 5) steps :=
    @Spelling.apart (.maxSteps 5) "max-steps" (text "005") rfl ⟨"005", rfl, by decide⟩ (by decide)
  have hlog : Spelling (.log "a=b") [text "--log=a=b"] :=
    @Spelling.joined (.log "a=b") "log" (text "a=b") rfl rfl
  have hjson : Spelling .json [text "--json"] := @Spelling.switch .json "json" rfl rfl
  have hdump : Spelling (.dumpMemory [0xFF]) [text "--dump-memory", [0xFF]] :=
    @Spelling.apart (.dumpMemory [0xFF]) "dump-memory" [0xFF] rfl ⟨rfl, nofun⟩ (by decide)
  have hwords : Spells [.log "a=b", .json, .dumpMemory [0xFF], .rom (text "-r.gb")] words :=
    .next hlog (.next hjson (.next hdump (.last (by decide))))
  have hpaths : o.NoEmptyPath := by decide
  have hperm : [.maxSteps 5, .log "a=b", .json, .dumpMemory [0xFF], .rom (text "-r.gb")].Perm
      o.given.gifts := by decide
  obtain ⟨-, hasked, htraced⟩ := every_spelling_is_read Host.documented_parse hpaths
  have ho : o.AskedBy (steps ++ words) := ⟨_, hperm, .next hsteps hwords⟩
  have ho' : o.TracedBy (steps ++ words) (steps ++ text "--trace" :: words) :=
    ⟨_, hperm, .later hsteps (.here hwords)⟩
  exact ⟨hpaths, ho, hasked _ ho, ((htraced _ _ ho').1 nofun).2⟩

end Lr35902.Options
