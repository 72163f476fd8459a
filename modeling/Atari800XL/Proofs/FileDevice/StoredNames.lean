import Atari800XL.Proofs.Files.Grammar
import Atari800XL.Proofs.FileDevice.Lock

namespace Atari800XL

namespace Files.Store

def PlainNames (s : Store) : Prop := ∀ f ∈ s.files, Plain f.name

theorem lasting_plainNames : Lasting PlainNames Plain where
  filter _ plain f mem := plain f (List.mem_filter.1 mem).1
  put plain named f mem := by
    rcases mem_insertFile mem with rfl | mem
    · exact named
    · exact plain f mem
  good plain mem := plain _ mem

end Files.Store

namespace FileDevice

open Files

section

variable {text : List Char} {name : String} {wildcards : Bool}

theorem normalize?_eq_ok_iff :
    normalize? text wildcards = .ok name ↔
      Files.normalize (String.ofList text) wildcards = some name := by
  unfold normalize?
  cases Files.normalize (String.ofList text) wildcards with
  | none => exact iff_of_false nofun nofun
  | some name' => rw [Except.ok.injEq, Option.some.injEq]

theorem normalize?_eq_error_iff :
    normalize? text wildcards = .error .badName ↔
      Files.normalize (String.ofList text) wildcards = none := by
  unfold normalize?
  cases Files.normalize (String.ofList text) wildcards with
  | none => exact iff_of_true rfl rfl
  | some name => exact iff_of_false nofun nofun

theorem plain_of_normalize? (valid : normalize? text false = .ok name) : Plain name :=
  plain_of_normalize (normalize?_eq_ok_iff.1 valid)

end

section

variable {s : Store} {text : List Char} {mode : OpenMode} {c : Channel} {name : String}

theorem plain_of_resolveName (writable : mode.writable = true)
    (resolved : resolveName s text mode = .ok name) : Plain name := by
  have asked : (mode == .read) = false := by
    cases mode with
    | read => cases writable
    | _ => rfl
  unfold resolveName at resolved
  rw [asked] at resolved
  cases valid : normalize? text false with
  | error status =>
    rw [valid] at resolved
    cases resolved
  | ok name' =>
    have plain := plain_of_normalize? valid
    rw [valid] at resolved
    change (if isPattern name' = true then _ else _) = _ at resolved
    rw [plain.2, if_neg Bool.false_ne_true] at resolved
    cases resolved
    exact plain

theorem Opened.plain (opened : Opened s c) (writable : c.mode.writable = true) : Plain c.name := by
  rcases opened.cases with listing | ⟨text, mode, opened⟩
  · rw [listing] at writable
    cases writable
  · obtain ⟨resolved, rfl, -⟩ := of_openFile opened
    exact plain_of_resolveName writable resolved

end

structure PlainNames (d : FileDevice) : Prop where
  files : d.store.PlainNames
  channels : ∀ i c, d.channel i = some c → c.mode.writable = true → Plain c.name

theorem PlainNames.of_store {s : Store} (plain : s.PlainNames) :
    PlainNames { store := s } where
  files := plain
  channels i c recorded := by
    rw [channel] at recorded
    simp at recorded

namespace PlainNames

variable {d : FileDevice} (plain : d.PlainNames)
include plain

theorem serve (e : Entry) : (e.serve d).device.PlainNames where
  files := by
    refine e.holds_serve Store.lasting_plainNames plain_of_normalize? plain.files ?_
    intro c effect writable
    obtain ⟨i, recorded⟩ := Entry.channel_of_flush effect
    exact plain.channels i c recorded writable
  channels := writing_serve e (fun c opened => opened.plain) plain.channels

theorem serveAll (calls : List Entry) : (d.serveAll calls).PlainNames := by
  induction calls generalizing d with
  | nil => exact plain
  | cons e calls ih => exact ih (plain.serve e)

end PlainNames

/-- A text of the first 128 characters is taken for the name that it spells, and refused if it
spells none. A name that was taken is taken again, for itself. And if all files have plain names to
begin with, they have after any calls. -/
theorem names_in_grammar {text : List Char} (ascii : ∀ c ∈ text, c.toNat < 128) (wildcards : Bool)
    {s : Store} (plain : s.PlainNames) (calls : List Entry) :
    (∀ name, normalize? text wildcards = .ok name ↔ Spells wildcards text name) ∧
      ((¬∃ name, Spells wildcards text name) → normalize? text wildcards = .error .badName) ∧
      Status.badName.code = 165 ∧
      (∀ (raw : List Char) (wildcards : Bool) (name : String),
        normalize? raw wildcards = .ok name → normalize? name.toList wildcards = .ok name) ∧
      (({ store := s } : FileDevice).serveAll calls).store.PlainNames := by
  have spells (name : String) :
      normalize? text wildcards = .ok name ↔ Spells wildcards text name := by
    have same := @normalize_eq_some_iff_spells (.ofList text) name wildcards
    rw [String.toList_ofList] at same
    rw [normalize?_eq_ok_iff, same ascii]
  refine ⟨spells, fun none => ?_, rfl, fun raw wildcards name valid => ?_,
    ((PlainNames.of_store plain).serveAll calls).files⟩
  · rw [normalize?_eq_error_iff, Option.eq_none_iff_forall_ne_some]
    intro name valid
    exact none ⟨name, (spells name).1 (normalize?_eq_ok_iff.2 valid)⟩
  · rw [normalize?_eq_ok_iff, String.ofList_toList]
    exact normalize_self (normalize?_eq_ok_iff.1 valid)

def sampleText : List Char := [' ', 'a', '*', '.', '\n']

def sampleNamed : FileDevice := { store := { files := [{ name := "A", data := ⟨#[0x78]⟩ }] } }

theorem plainNames_sampleNamed : sampleNamed.store.PlainNames := by
  intro f mem
  obtain rfl := List.mem_singleton.1 mem
  exact plain_of_normalize (by decide +kernel : Files.normalize "A" false = some "A")

theorem spells_sampleText : Spells true sampleText "A*" := by
  have letters : "A*".toList = ['A', '*'] := by decide +kernel
  refine ⟨[' '], ['a', '*', '.'], ['\n'], rfl, ?_, ?_⟩
  · rw [List.forall_mem_append, List.forall_mem_singleton, List.forall_mem_singleton]
    decide
  · rw [letters]
    refine @Written.dotted true ['A', '*'] ⟨by decide, by decide, ?_⟩
    rw [List.forall_mem_cons, List.forall_mem_singleton]
    decide

theorem serveAll_requests {i j : ChannelIndex} {command command' : Command}
    (r : Request i command) (r' : Request j command') (d : FileDevice) :
    d.serveAll [r.entry, r'.entry] = (r'.call (r.call d).device).device := rfl

def sampleWriting : List Entry := [(sampleOpening .write).entry, sampleClose.entry]

theorem read_sampleWriting :
    (sampleNamed.serveAll sampleWriting).store.read "A.B" = some .empty := by
  have unlocked : (sampleNamed.store.find? "A.B").any (·.locked) = false := by decide +kernel
  obtain ⟨-, opened⟩ := (sampleOpening .write).call_of_openFile nofun
    ((sampleOpening .write).openFile_write unlocked)
  have recorded := sampleNamed.channel_setChannel Scene.channel (some (writing "A.B" []))
  obtain ⟨-, closed⟩ := sampleClose.call_close recorded
  rw [← opened] at closed
  rw [sampleWriting, serveAll_requests, closed]
  exact Store.read_write _ _ _

theorem names_in_grammar_sample :
    (∀ c ∈ sampleText, c.toNat < 128) ∧ sampleNamed.store.PlainNames ∧
      normalize? sampleText true = .ok "A*" ∧
      normalize? "A*".toList true = .ok "A*" ∧
      (sampleNamed.serveAll sampleWriting).store.read "A.B" = some .empty ∧
      (sampleNamed.serveAll sampleWriting).store.PlainNames := by
  have ascii : ∀ c ∈ sampleText, c.toNat < 128 := by
    have all : sampleText.all (·.toNat < 128) = true := by decide
    simpa using all
  obtain ⟨named, -, -, again, plain⟩ :=
    names_in_grammar ascii true plainNames_sampleNamed sampleWriting
  have taken := (named "A*").2 spells_sampleText
  exact ⟨ascii, plainNames_sampleNamed, taken, again sampleText true "A*" taken,
    read_sampleWriting, plain⟩

end FileDevice

end Atari800XL
