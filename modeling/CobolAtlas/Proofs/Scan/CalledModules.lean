import CobolAtlas.Proofs.Distinct
import CobolAtlas.Proofs.Scan.Action

/-!
# Called modules

The scan lists the modules that are called beside the calls themselves. A section that ends keeps
one call of each target, so the call of a module may give way to an earlier `PERFORM` of the same
name; the list of modules does not shrink with it. What stays true is that no target is lost.

`KeepsTargets` is what everything but a call does to the calls of all sections: some calls may go,
no target does. `ModulesListed` relates the calls to the list of modules, and is kept by what keeps
targets (`ModulesListed.of_keepsTargets`) and by one more call (`ModulesListed.addCall`).
-/

namespace CobolAtlas

/-- All calls of some sections. -/
def Section.allCalls (sections : List Section) : List Call :=
  sections.flatMap Section.calls

/-- The calls of `new` are calls of `old`, and each target of `old` is still called. -/
structure KeepsTargets (old new : List Call) : Prop where
  from_old : ∀ call ∈ new, call ∈ old
  to_new : ∀ call ∈ old, call.target ∈ new.map Call.target

/-- Each call of a module is listed, and each module of the list is the target of a call. -/
structure ModulesListed (calls : List Call) (modules : List String) : Prop where
  listed : ∀ call ∈ calls, call.isModule = true → call.target ∈ modules
  called : ∀ target ∈ modules, target ∈ calls.map Call.target

namespace KeepsTargets

theorem refl (calls : List Call) : KeepsTargets calls calls := by
  constructor
  · intro call hcall
    exact hcall
  · intro call hcall
    exact List.mem_map_of_mem hcall

/-- Dropping repeated targets keeps every target and, for a module, that it is one. -/
theorem dedup (calls : List Call) : KeepsTargets calls (Call.dedup calls) := by
  constructor
  · intro call hcall
    exact (keepFirst_sublist Call.target calls).subset hcall
  · intro call hcall
    apply (mem_map_keepFirst_iff Call.target calls _).mpr
    exact List.mem_map_of_mem hcall

theorem append {old new : List Call} (h : KeepsTargets old new) (others : List Call) :
    KeepsTargets (others ++ old) (others ++ new) := by
  constructor
  · intro call hcall
    rcases List.mem_append.mp hcall with hcall | hcall
    · exact List.mem_append_left _ hcall
    · exact List.mem_append_right _ (h.from_old call hcall)
  · intro call hcall
    rw [List.map_append]
    rcases List.mem_append.mp hcall with hcall | hcall
    · exact List.mem_append_left _ (List.mem_map_of_mem hcall)
    · exact List.mem_append_right _ (h.to_new call hcall)

end KeepsTargets

namespace ModulesListed

variable {calls : List Call} {modules : List String}

/-- The list of modules does not notice that repeated calls were dropped. -/
theorem of_keepsTargets (h : ModulesListed calls modules) {kept : List Call}
    (hkept : KeepsTargets calls kept) : ModulesListed kept modules := by
  constructor
  · intro call hcall
    exact h.listed call (hkept.from_old call hcall)
  · intro target htarget
    obtain ⟨call, hcall, rfl⟩ := List.mem_map.mp (h.called target htarget)
    exact hkept.to_new call hcall

theorem addCall (h : ModulesListed calls modules) (call : Call) :
    ModulesListed (calls ++ [call])
      (if call.isModule then modules ++ [call.target] else modules) := by
  constructor
  · intro other hother hmodule
    rcases List.mem_append.mp hother with hother | hother
    · have hlisted := h.listed other hother hmodule
      split
      · exact List.mem_append_left _ hlisted
      · exact hlisted
    · obtain rfl := List.mem_singleton.mp hother
      rw [if_pos hmodule]
      exact List.mem_append_right _ List.mem_cons_self
  · intro target htarget
    rw [List.map_append]
    split at htarget
    · rcases List.mem_append.mp htarget with htarget | htarget
      · exact List.mem_append_left _ (h.called target htarget)
      · exact List.mem_append_right _ htarget
    · exact List.mem_append_left _ (h.called target htarget)

end ModulesListed

/-! ### The calls of a scan -/

namespace Scan

theorem allCalls_append_current (ended : List Section) (current : Option Section) :
    Section.allCalls (ended ++ current.toList) =
      Section.allCalls ended ++ (current.map Section.calls).getD [] := by
  rcases current with _ | s <;> simp [Section.allCalls]

-- a section that starts has no calls yet
theorem allCalls_concat_start (sections : List Section) (name title : String) (line : Nat) :
    Section.allCalls (sections ++ [.start name title line]) = Section.allCalls sections := by
  simp [Section.allCalls, Section.start]

/-- The end of the open section keeps targets. -/
theorem keepsTargets_closed (ended : List Section) (current : Option Section) (line : Nat) :
    KeepsTargets (Section.allCalls (ended ++ current.toList))
      (Section.allCalls (ended ++ (current.map (·.close line)).toList)) := by
  rw [allCalls_append_current, allCalls_append_current]
  rcases current with _ | s
  · exact .refl _
  · exact (KeepsTargets.dedup s.calls).append _

theorem allCalls_fetched (scan : Scan) (words : List String) :
    Section.allCalls (scan.fetched words).sections = Section.allCalls scan.sections := by
  rcases fetched_cases scan words with hsame | ⟨s, cursor, hcurrent, _, _, _, hfetch⟩
  · rw [hsame]
  · have hcalls : (s.addFetch cursor).calls = s.calls := by
      unfold Section.addFetch
      split <;> rfl
    rw [hfetch, sections, sections, allCalls_append_current, allCalls_append_current, hcurrent]
    simp only [Option.map_some, hcalls]

/-- Step lemma: a line keeps the list of modules and the calls of the sections in agreement. -/
theorem Change.modulesListed {options : ScanOptions} {raw : String} {scan after : Scan}
    (hchange : Change options raw scan after)
    (h : ModulesListed (Section.allCalls scan.sections) scan.calledModules) :
    ModulesListed (Section.allCalls after.sections) after.calledModules := by
  cases hchange with
  | skip => exact h
  | member => exact h
  | openBlock => exact h
  | condition => exact h
  | blockLine block =>
    have hmodules := ((sqlOnly_fetched scan (scan.wordsOf raw)).afterBlockLine
      (block.readLine options.tokenizer (scan.wordsOf raw) (Line.isContinuation raw) scan.owner
        (scan.line + 1)).value).calledModules_eq
    rw [hmodules, sections, afterBlockLine_ended, afterBlockLine_current, ← sections,
      allCalls_fetched]
    exact h
  | openSection =>
    apply h.of_keepsTargets
    simp only [sections, Option.toList_some, allCalls_concat_start]
    exact keepsTargets_closed scan.ended scan.current scan.line
  | closeSection s hcurrent =>
    apply h.of_keepsTargets
    have hclosed := keepsTargets_closed scan.ended scan.current (scan.line + 1)
    rw [hcurrent] at hclosed
    simpa [sections, hcurrent] using hclosed
  | call s call hcurrent =>
    have hcalls : Section.allCalls (scan.addCall s call).sections =
        Section.allCalls scan.sections ++ [call] := by
      rw [sections, sections, allCalls_append_current, allCalls_append_current, hcurrent]
      simp [Scan.addCall, Section.addCall]
    rw [hcalls]
    exact h.addCall call

theorem readLines_modulesListed (options : ScanOptions) (lines : List String) :
    let scan := (readLines options {} lines).value
    ModulesListed (Section.allCalls scan.sections) scan.calledModules := by
  refine readLines_induction
    (fun scan => ModulesListed (Section.allCalls scan.sections) scan.calledModules)
    ?_ ?_ lines {} ?_
  · intro scan raw h
    have hmodules : (scan.entered raw).calledModules = scan.calledModules := by rw [entered]
    rw [sections_entered, hmodules]
    exact h
  · intro scan raw after h hchange
    rw [sections_passed]
    exact hchange.modulesListed h
  · constructor <;> simp [sections, Section.allCalls]

end Scan

/-- **Called modules.** In every program each call of a module has its target in the list of called
modules, and each module of the list is the target of a call that some section has kept. -/
theorem Source.scan_calledModules (source : Source) (options : ScanOptions) :
    let findings := (source.scan options).value
    (∀ s ∈ findings.sections, ∀ call ∈ s.calls, call.isModule = true →
      call.target ∈ findings.calledModules) ∧
    ∀ target ∈ findings.calledModules, ∃ s ∈ findings.sections, ∃ call ∈ s.calls,
      call.target = target := by
  have hend := (Scan.readLines_modulesListed options source.lines).of_keepsTargets
    (Scan.keepsTargets_closed _ _ (Scan.readLines options {} source.lines).value.line)
  simp only [Source.scan, Logged.value_bind, Scan.finish_value]
  constructor
  · intro s hs call hcall
    apply hend.listed
    exact List.mem_flatMap.mpr ⟨s, hs, hcall⟩
  · intro target htarget
    obtain ⟨call, hcall, hcalled⟩ := List.mem_map.mp (hend.called target htarget)
    obtain ⟨s, hs, hmem⟩ := List.mem_flatMap.mp hcall
    exact ⟨s, hs, call, hmem, hcalled⟩

-- the call of the module gives way to the `PERFORM` in front of it
example :
    let findings := (Source.scan ⟨"A.cbl",
      ["       PROCEDURE DIVISION.", "       MAIN SECTION.", "           PERFORM UTIL.",
        "           CALL 'UTIL'."]⟩ {}).value
    findings.calledModules = ["UTIL"] ∧
      findings.sections.map Section.calls = [[.perform "UTIL" ""]] := by
  decide +kernel

end CobolAtlas
