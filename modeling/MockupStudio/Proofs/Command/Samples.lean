/-
What the samples of a command are.

* `Program.Samples`: samples of a program one after the other, all drawn from
  one supply; `Program.Samples.take`: the first ones do not depend on the
  others;
* `Command.lines?`: the lines of what is printed; `Command.lines?_join`: data
  on one line each can be told apart;
* `Command.opened`: what opening a document makes of it;
  `Command.samples_eq_ok`: the samples that are taken then;
* `Command.sample_eq_ok`: what the command prints, and when it prints at all;
  `Command.sample_of_larger_count`: it is the beginning of what it prints if
  it is asked for more.
-/
import MockupStudio.Command.Documents
import MockupStudio.Proofs.Json.Printable
import MockupStudio.Proofs.Preview.Resampling

namespace MockupStudio

namespace Script.Program

variable {program : Program} {supply supply' : Supply} {data : List Json}

/-- Samples of a program one after the other: each takes its draws from where
the one before has left off. -/
inductive Samples (program : Program) : Supply → List Json → Supply → Prop where
  | none (supply : Supply) : Samples program supply [] supply
  | next {supply supply' supply'' : Supply} {first : Json} {later : List Json} :
      program.sample supply = .ok first supply' → Samples program supply' later supply'' →
        Samples program supply (first :: later) supply''

/-- The first ones of a run of samples do not depend on the others. -/
lemma Samples.take (h : program.Samples supply data supply') (n : Nat) :
    ∃ supply'', program.Samples supply (data.take n) supply'' := by
  induction h generalizing n with
  | none supply => exact ⟨supply, by rw [List.take_nil]; exact .none supply⟩
  | @next supply _ _ first later hfirst _ ih =>
    cases n with
    | zero => exact ⟨supply, .none supply⟩
    | succ n =>
      obtain ⟨supply'', hlater⟩ := ih n
      exact ⟨supply'', .next hfirst hlater⟩

end Script.Program

namespace Command

open Script

/-! ### Lines -/

/-- The lines of a text, if every one of them ends. -/
def lines? (text : String) : Option (List String) :=
  let parts := text.toList.splitOn '\n'
  if parts.getLast? = some [] then some (parts.dropLast.map String.ofList) else none

lemma splitOn_join (data : List Json) :
    (String.join (data.map fun d => d.compact ++ "\n")).toList.splitOn '\n'
      = data.map (·.compact.toList) ++ [[]] := by
  induction data with
  | nil => rfl
  | cons d data ih =>
    have hline : (d.compact ++ "\n").toList = d.compact.toList ++ ['\n'] := String.toList_append
    rw [List.map_cons, String.join_cons, String.toList_append, hline, List.append_assoc,
      List.singleton_append,
      List.splitOn_append_cons_self_of_not_mem (Json.newLine_notMem_compact d), ih]
    rfl

/-- Data on one line each can be told apart. -/
lemma lines?_join (data : List Json) :
    lines? (String.join (data.map fun d => d.compact ++ "\n")) = some (data.map Json.compact) := by
  have hlines : (data.map fun d => d.compact.toList).map String.ofList = data.map Json.compact := by
    simp
  rw [lines?, splitOn_join, List.getLast?_concat, if_pos rfl, List.dropLast_concat, hlines]

/-! ### Opening a document -/

/-- A new preview with a document in it. -/
def opened (options : Options) (id : String) (document : Document) : Preview :=
  (Preview.create id options.settings (supply options)).load document.name document.sources

section Opening

variable {options : Options} (id : String) {document : Document} {program : Program}
  {first : Json} {supply' : Supply}

lemma attempt_load (p : Preview) (name : String) (sources : Sources) :
    (p.facet .script).attempt? .script (.load name sources) = some sources.script := rfl

/-- A script that gives a sample is in use once it is loaded. -/
lemma opened_in_use
    (hcompile : Program.compile options.settings.limits document.sources.script = .ok program)
    (hfirst : program.sample (supply options) = .ok first supply') :
    ((opened options id document).slot .script).error = none
      ∧ (opened options id document).program = some program
      ∧ (opened options id document).supply = supply' := by
  have hproduce : Preview.produce options.settings.limits document.sources.script (supply options)
      = .ok (program, first) supply' := Preview.produce_of_sample hcompile hfirst
  obtain ⟨hslot, hstock⟩ := Preview.script_compiled (attempt_load
    (Preview.create id options.settings (supply options)) document.name document.sources) hproduce
  exact ⟨congrArg Slot.error hslot, congrArg Stock.program hstock, congrArg Stock.supply hstock⟩

variable {id} in
/-- If nothing is wrong with a script once it is loaded, it has given a sample. -/
lemma sample_of_opened (h : ((opened options id document).slot .script).error = none) :
    ∃ program first supply',
      Program.compile options.settings.limits document.sources.script = .ok program
        ∧ program.sample (supply options) = .ok first supply' := by
  cases hproduce : Preview.produce options.settings.limits document.sources.script
      (supply options) with
  | ok made supply' =>
    obtain ⟨program, first⟩ := made
    obtain ⟨hcompile, hfirst⟩ := Preview.produce_ok hproduce
    exact ⟨program, first, supply', hcompile, hfirst⟩
  | error e supply' =>
    obtain ⟨hslot, -⟩ := Preview.script_refused (attempt_load
      (Preview.create id options.settings (supply options)) document.name document.sources) hproduce
    cases (congrArg Slot.error hslot).symm.trans h

end Opening

/-! ### Samples -/

section Samples

variable {σ : Type} {store : DocumentStore σ} {options : Options} {id text : String} {n m : Nat}
  {s s' : σ} {p : Preview} {program : Program} {data : List Json}

/-- A document is opened if the store has it. -/
lemma openPreview_eq_ok : openPreview store options id s = .ok p s' ↔
    ∃ document, store.get id s = .ok document s' ∧ opened options id document = p := by
  have hid : (Preview.create id options.settings (supply options)).id = id := rfl
  simp only [openPreview, Session.openDocument, Session.onStore, hid, opened]
  cases hget : store.get id s with
  | ok document contents => simp [and_comm]
  | error e contents => simp

/-- A sample is taken, and the next one from what it has left. -/
lemma samples_given {first : Json} {supply' : Supply} (hprogram : p.program = some program)
    (h : program.sample p.supply = .ok first supply') :
    samples (n + 1) p = (samples n (p.step .refreshSample)).map (first :: ·)
      ∧ (p.step .refreshSample).program = some program
      ∧ (p.step .refreshSample).supply = supply' := by
  obtain ⟨hanswer, hstock⟩ := Preview.sample_given hprogram h
  have hrefresh : p.refreshSample = (.ok first, p.step .refreshSample) := Prod.ext hanswer rfl
  exact ⟨by rw [samples, hrefresh], congrArg Stock.program hstock, congrArg Stock.supply hstock⟩

/-- The first sample that fails is the end of them. -/
lemma samples_refused {e : ScriptError} {supply' : Supply} (hprogram : p.program = some program)
    (h : program.sample p.supply = .error e supply') :
    samples (n + 1) p = .error (.preview (.stage (Preview.scriptError e))) := by
  have hrefresh : p.refreshSample
      = (.error (.stage (Preview.scriptError e)), p.step .refreshSample) :=
    Prod.ext (Preview.sample_refused hprogram h).1 rfl
  rw [samples, hrefresh]

/-- As many samples are taken as are asked for. -/
lemma samples_eq_ok (hprogram : p.program = some program) : samples n p = .ok data
    ↔ data.length = n ∧ ∃ supply, program.Samples p.supply data supply := by
  induction n generalizing p data with
  | zero =>
    rw [samples, Except.ok.injEq, List.length_eq_zero_iff]
    constructor
    · rintro rfl
      exact ⟨rfl, p.supply, .none p.supply⟩
    · rintro ⟨rfl, -⟩
      rfl
  | succ n ih =>
    constructor
    · intro h
      cases hsample : program.sample p.supply with
      | error e supply' =>
        rw [samples_refused hprogram hsample] at h
        cases h
      | ok first supply' =>
        obtain ⟨hsamples, hsame, rfl⟩ := samples_given (n := n) hprogram hsample
        rw [hsamples] at h
        cases hrest : samples n (p.step .refreshSample) with
        | ok later =>
          obtain ⟨hlength, supply'', hrun⟩ := (ih hsame).mp hrest
          rw [hrest] at h
          cases h
          exact ⟨congrArg (· + 1) hlength, supply'', .next hsample hrun⟩
        | error e =>
          rw [hrest] at h
          cases h
    · rintro ⟨hlength, supply'', hrun⟩
      cases hrun with
      | none => cases hlength
      | next hfirst hlater =>
        obtain ⟨hsamples, hsame, rfl⟩ := samples_given (n := n) hprogram hfirst
        rw [hsamples, (ih hsame).mpr ⟨Nat.succ.inj hlength, supply'', hlater⟩]
        rfl

/-- Once the document is open, samples are printed unless there is something
wrong with the script. -/
lemma sample_iff_opens : Command.sample store options id n s = .ok text s' ↔
    ∃ p, openPreview store options id s = .ok p s' ∧ (p.slot .script).error = none
      ∧ ∃ data, samples n p = .ok data
        ∧ String.join (data.map fun d => d.compact ++ "\n") = text := by
  simp only [Command.sample, bind, EStateM.bind]
  cases openPreview store options id s with
  | error e contents => simp
  | ok p contents =>
    simp only [EStateM.Result.ok.injEq, exists_eq_left', and_assoc]
    cases herror : (p.slot .script).error with
    | some e => simp [throw, throwThe, MonadExceptOf.throw, EStateM.throw]
    | none =>
      cases hsamples : samples n p with
      | ok data => simp [pure, EStateM.pure, and_comm]
      | error e => simp [throw, throwThe, MonadExceptOf.throw, EStateM.throw]

/-- The command prints the samples that come after the one which opening the
document has taken. -/
theorem sample_eq_ok : Command.sample store options id n s = .ok text s' ↔
    ∃ document program first data supply', store.get id s = .ok document s'
      ∧ Program.compile options.settings.limits document.sources.script = .ok program
      ∧ program.Samples (supply options) (first :: data) supply' ∧ data.length = n
      ∧ String.join (data.map fun d => d.compact ++ "\n") = text := by
  constructor
  · intro h
    obtain ⟨p, hopen, herror, data, hsamples, htext⟩ := sample_iff_opens.mp h
    obtain ⟨document, hget, rfl⟩ := openPreview_eq_ok.mp hopen
    obtain ⟨program, first, supply', hcompile, hfirst⟩ := sample_of_opened herror
    obtain ⟨-, hprogram, rfl⟩ := opened_in_use id hcompile hfirst
    obtain ⟨hlength, supply'', hrun⟩ := (samples_eq_ok hprogram).mp hsamples
    exact ⟨document, program, first, data, supply'', hget, hcompile, .next hfirst hrun, hlength,
      htext⟩
  · rintro ⟨document, program, first, data, supply', hget, hcompile, hrun, hlength, rfl⟩
    cases hrun with
    | next hfirst hrun =>
      obtain ⟨herror, hprogram, rfl⟩ := opened_in_use id hcompile hfirst
      exact sample_iff_opens.mpr ⟨opened options id document,
        openPreview_eq_ok.mpr ⟨document, hget, rfl⟩, herror, data,
        (samples_eq_ok hprogram).mpr ⟨hlength, supply', hrun⟩, rfl⟩

/-- Under a seed, samples are one run of a program, the first of which is taken
when the document is opened. If some of them can be printed, so can any smaller
number, and these are the first lines of the others: each is the data of one
sample. -/
theorem sample_of_larger_count {seed : Nat} (hseed : options.seed = some seed) (hnm : n ≤ m)
    (h : Command.sample store options id m s = .ok text s') :
    ∃ document program first data supply', store.get id s = .ok document s'
      ∧ Program.compile options.settings.limits document.sources.script = .ok program
      ∧ program.Samples { source := .seeded (UInt64.ofNat seed) } (first :: data) supply'
      ∧ data.length = m ∧ lines? text = some (data.map Json.compact)
      ∧ ∃ shorter, Command.sample store options id n s = .ok shorter s'
        ∧ lines? shorter = some ((data.map Json.compact).take n)
        ∧ ((data.map Json.compact).take n).length = n := by
  obtain ⟨document, program, first, data, supply', hget, hcompile, hrun, hlength, rfl⟩ :=
    sample_eq_ok.mp h
  obtain ⟨supply'', hshorter⟩ := hrun.take (n + 1)
  have hsupply : supply options = { source := .seeded (UInt64.ofNat seed) } := by
    rw [supply, hseed]
    rfl
  have htake : (data.take n).length = n := by
    rw [List.length_take, hlength, Nat.min_eq_left hnm]
  have hprinted : Command.sample store options id n s
      = .ok (String.join ((data.take n).map fun d => d.compact ++ "\n")) s' :=
    sample_eq_ok.mpr
      ⟨document, program, first, data.take n, supply'', hget, hcompile, hshorter, htake, rfl⟩
  refine ⟨document, program, first, data, supply', hget, hcompile, hsupply ▸ hrun, hlength,
    lines?_join data, _, hprinted, ?_, ?_⟩
  · rw [lines?_join, List.map_take]
  · rw [← List.map_take, List.length_map, htake]

end Samples

/-! ### A document that tosses a coin -/

/-- What is printed of a sample, and what is left of the supply. -/
def printed? : EStateM.Result ScriptError Supply Json → Option (String × Supply)
  | .ok data supply => some (data.compact, supply)
  | .error .. => none

lemma exists_ok_of_printed {result : EStateM.Result ScriptError Supply Json} {line : String}
    {supply : Supply} (h : printed? result = some (line, supply)) :
    ∃ data, data.compact = line ∧ result = .ok data supply := by
  cases result with
  | ok data =>
    cases h
    exact ⟨data, rfl, rfl⟩
  | error => cases h

/-- A document with the data of a toss. -/
def coin : Document := ⟨"coin", "Coin", ⟨0, 0⟩, ⟨"", "", "return pick(1, 2);"⟩⟩

/-- Its script. -/
def coinProgram : Program :=
  ⟨[.result (some (.call (.name "pick") [.literal (.int 1), .literal (.int 2)]))], {}⟩

/-- The supply of a seed after some tosses. -/
def coinSupply (draws : Nat) : Supply :=
  { source := .seeded (7 + stride * UInt64.ofNat draws) }

lemma read_coin : Program.read {} coin.sources.script = .ok coinProgram := by cbv

lemma printed_coinProgram : printed? (coinProgram.sample (coinSupply 0)) = some ("2", coinSupply 1)
    ∧ printed? (coinProgram.sample (coinSupply 1)) = some ("1", coinSupply 2)
    ∧ printed? (coinProgram.sample (coinSupply 2)) = some ("1", coinSupply 3)
    ∧ printed? (coinProgram.sample (coinSupply 3)) = some ("2", coinSupply 4) := by
  decide +kernel

/-- Three tosses after the one that opens the document. -/
lemma sample_coin : Command.sample Shelf.store { seed := some 7 } "coin" 3 [("coin", coin)]
    = .ok "1\n1\n2\n" [("coin", coin)] := by
  obtain ⟨hzero, hone, htwo, hthree⟩ := printed_coinProgram
  obtain ⟨opening, -, hopening⟩ := exists_ok_of_printed hzero
  obtain ⟨first, hfirst, hone⟩ := exists_ok_of_printed hone
  obtain ⟨second, hsecond, htwo⟩ := exists_ok_of_printed htwo
  obtain ⟨third, hthird, hthree⟩ := exists_ok_of_printed hthree
  refine sample_eq_ok.mpr ⟨coin, coinProgram, opening, [first, second, third], coinSupply 4, rfl,
    Preview.compile_of_sample read_coin hopening,
    .next hopening (.next hone (.next htwo (.next hthree (.none _)))), rfl, ?_⟩
  rw [List.map_cons, List.map_cons, List.map_cons, hfirst, hsecond, hthird]
  rfl

/-- The first two of three tosses. -/
theorem sample_of_two_coins : ∃ shorter,
    Command.sample Shelf.store { seed := some 7 } "coin" 2 [("coin", coin)]
      = .ok shorter [("coin", coin)] ∧ lines? shorter = some ["1", "1"] := by
  obtain ⟨-, -, -, data, -, -, -, -, -, hlines, shorter, hshorter, hshortened, -⟩ :=
    sample_of_larger_count (n := 2) rfl (by decide) sample_coin
  have hdata : data.map Json.compact = ["1", "1", "2"] :=
    Option.some.inj (hlines.symm.trans (by decide))
  exact ⟨shorter, hshorter, by rw [hshortened, hdata]; rfl⟩

end Command

end MockupStudio
