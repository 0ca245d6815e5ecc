/-
The order of maps never shows.

* `Run.Takes`: how many steps a script takes;
* `Run.StaysAlike`, `Run.Stirred.staysAlike`: a script takes as many steps, and
  ends in the same way, however its maps are stirred while it runs;
* `program_alike`: the runs of programs may be stirred;
* `map_order_never_shows`: what that comes to, for runs, samples and texts.
-/
import MockupStudio.Proofs.Script.AlikeExpansion
import Mathlib.Data.Nat.Find

namespace MockupStudio.Script

section Ends

variable {run run' : Run} {code : Code} {c : Moment} {n k k' : Nat}
  {r r' : EStateM.Result RuntimeError Machine Value}

/-- A script takes so many steps. -/
structure Run.Takes (run : Run) (code : Code) (n : Nat) : Prop where
  ended : run.after n (.start code) = .ended (run.script code .start)
  goesOn : ∀ i < n, run.step? (run.after i (.start code)) ≠ none

lemma exists_takes (run : Run) (code : Code) : ∃ n, run.Takes code n := by
  classical
  have hends : ∃ n, run.step? (run.after n (.start code)) = none := by
    obtain ⟨n, hn⟩ := leads_ended run code
    exact ⟨n, hn ▸ step?_ended _⟩
  have hleads : run.Leads (.start code) (run.after (Nat.find hends) (.start code)) := ⟨_, rfl⟩
  refine ⟨Nat.find hends, ?_, fun i => Nat.find_min hends⟩
  exact hleads.unique (leads_ended run code) (Nat.find_spec hends) (step?_ended _)

/-- A moment that has ended is the end of the script. -/
lemma script_eq_of_after (h : run.after n (.start code) = .ended r) :
    run.script code .start = r := by
  have hleads : run.Leads (.start code) (.ended r) := ⟨n, h⟩
  exact ended_injective ((leads_ended run code).unique hleads (step?_ended _) (step?_ended _))

/-- Where a script takes `n` steps, `k` steps with its maps stirred go on as
those do. -/
structure Run.StaysAlike (run : Run) (code : Code) (n k : Nat) (c : Moment) : Prop where
  le : k ≤ n
  goesOn : ∀ run', run.Alike run' → (run'.step? c = none ↔ k = n)
  ended : (∃ r, c = .ended r) ↔ k = n
  alike : ∀ r, c = .ended r → EndsAlike Value.Alike r (run.script code .start)

/-- However its maps are stirred, a script takes as many steps, and ends in the
same way. -/
theorem Run.Stirred.staysAlike (h : run.Stirred k (.start code) c) (htakes : run.Takes code n) :
    run.StaysAlike code n k c := by
  obtain ⟨hafter, hgoes⟩ := h.alike_after (start_alike code)
  have hle : k ≤ n := by
    by_contra hlt
    exact hgoes n (Nat.not_le.mp hlt) (htakes.ended ▸ step?_ended _)
  have hnone : run.step? (run.after k (.start code)) = none ↔ k = n := by
    constructor
    · exact fun hnone => Nat.le_antisymm hle (Nat.not_lt.mp fun hlt => htakes.goesOn k hlt hnone)
    · rintro rfl
      rw [htakes.ended, step?_ended]
  have hend (r) (hr : c = .ended r) : k = n := by
    obtain ⟨r', hr', -⟩ := ended_of_alike (hr ▸ hafter).symm
    exact hnone.mp (hr' ▸ step?_ended r')
  refine ⟨hle, fun run' hrun => (step?_eq_none_iff hrun.symm hafter).trans hnone, ?_, ?_⟩
  · refine ⟨fun ⟨r, hr⟩ => hend r hr, ?_⟩
    rintro rfl
    obtain ⟨r, hr, -⟩ := ended_of_alike (htakes.ended ▸ hafter)
    exact ⟨r, hr⟩
  · rintro r rfl
    obtain rfl := hend r rfl
    obtain ⟨r', hr', halike⟩ := ended_of_alike (htakes.ended ▸ hafter)
    rwa [ended_injective hr']

lemma Run.Stirred.alike_script (h : run.Stirred k (.start code) (.ended r)) :
    EndsAlike Value.Alike r (run.script code .start) := by
  obtain ⟨n, htakes⟩ := exists_takes run code
  exact (h.staysAlike htakes).alike r rfl

/-- Two runs of a script with its maps stirred in two ways. -/
lemma Run.Stirred.alike_ends (h : run.Stirred k (.start code) (.ended r))
    (h' : run.Stirred k' (.start code) (.ended r')) : k = k' ∧ EndsAlike Value.Alike r r' := by
  obtain ⟨n, htakes⟩ := exists_takes run code
  have hk : k = n := (h.staysAlike htakes).ended.mp ⟨r, rfl⟩
  have hk' : k' = n := (h'.staysAlike htakes).ended.mp ⟨r', rfl⟩
  exact ⟨hk.trans hk'.symm, h.alike_script.trans_symm h'.alike_script⟩

/-- The run that leaves its maps as they are is one of them. -/
lemma stirred_script (hrun : run.Alike run) (code : Code) :
    ∃ n, run.Stirred n (.start code) (.ended (run.script code .start)) := by
  obtain ⟨n, htakes⟩ := exists_takes run code
  exact ⟨n, htakes.ended ▸ stirred_after hrun (start_alike code) htakes.goesOn⟩

end Ends

/-! ### Programs -/

/-- Every helper is kept once, so the runs of programs are alike to
themselves. -/
lemma program_alike (limits : Limits) (serial : Nat) :
    Run.Alike ⟨limits, Program.helpers limits, serial⟩
      ⟨limits, Program.helpers limits, serial⟩ := by
  have hkeys : (Helper.all.map Helper.name).Nodup := by decide
  have hhelpers : Scope.Alike
      (Helper.all.map fun h => (h.name, h.native 0 limits.maxRepeat limits.maxResolveDepth))
      (Helper.all.map fun h => (h.name, h.native 0 limits.maxRepeat limits.maxResolveDepth)) := by
    refine Bindings.related_self ?_ fun b hb => ?_
    · rw [Bindings.keys, List.map_map]
      exact hkeys
    · obtain ⟨h, -, rfl⟩ := List.mem_map.mp hb
      exact .native
  exact ⟨rfl, hhelpers.insert helpersName (Value.alike_object hhelpers), rfl,
    fun _ => .ok Value.alike_null⟩

/-- However the maps of a script are stirred while it runs, it takes as many
steps and ends with the same error or with values that are alike; what they
are expanded to are the samples of the program, with the same draws; and all
values that are alike are shown as the same text. -/
theorem map_order_never_shows :
    (∀ (run : Run) (code : Code), ∃ n, run.Takes code n ∧
      ∀ k c, run.Stirred k (.start code) c → run.StaysAlike code n k c)
    ∧ (∀ (run : Run) (code : Code) k k' r r', run.Stirred k (.start code) (.ended r) →
      run.Stirred k' (.start code) (.ended r') → k = k' ∧ EndsAlike Value.Alike r r')
    ∧ (∀ run : Run, run.Alike run → ∀ code,
      ∃ n, run.Stirred n (.start code) (.ended (run.script code .start)))
    ∧ (∀ (p : Program) n r,
      Run.Stirred ⟨p.limits, Program.helpers p.limits, 0⟩ n (.start p.code) (.ended r) →
        ∀ (σ : Type) (seen : σ → Supply) force, ForcesAlike seen force →
          Shows seen (p.expandEnd force r) p.sample)
    ∧ ∀ v w : Value, v.Alike w → v.shown = w.shown := by
  refine ⟨fun run code => ?_, fun run code k k' r r' h h' => h.alike_ends h',
    fun run hrun code => stirred_script hrun code, fun p n r h σ seen force hforce => ?_,
    fun v w => Value.Alike.shown_eq⟩
  · obtain ⟨n, htakes⟩ := exists_takes run code
    exact ⟨n, htakes, fun k c h => h.staysAlike htakes⟩
  · rw [← expandEnd_eq_sample]
    exact expandEnd_alike hforce h.alike_script

/-- `return { size: 3, key: uid() };` -/
def keyedProgram : Program :=
  ⟨[.result (some (.object [("size", .literal (.int 3)), ("key", .call (.name "uid") [])]))], {}⟩

def keyedRun : Run := ⟨keyedProgram.limits, Program.helpers keyedProgram.limits, 0⟩

/-- The members of what it gives. -/
def keyedMembers : Scope := [("size", .int 3), ("key", .fixture "uid" (.digits 32) 0)]

/-- The end of its run, with the members in some order. -/
def keyedEnd (members : Scope) : EStateM.Result RuntimeError Machine Value :=
  .ok (.object members) ⟨[[]], 5, 0, 0⟩

lemma script_keyed : keyedRun.script keyedProgram.code .start = keyedEnd keyedMembers :=
  script_eq_of_after (n := 20) rfl

lemma keyedMembers_alike {members : Scope} (h : members.Perm keyedMembers) :
    Value.Alike (.object keyedMembers) (.object members) := by
  have hmembers : Scope.Alike keyedMembers keyedMembers := by
    refine Bindings.related_self (by decide) ?_
    simp only [keyedMembers, List.forall_mem_cons]
    exact ⟨.scalar rfl, .plain rfl, List.forall_mem_nil _⟩
  exact Value.alike_object (hmembers.perm (.refl _) h)

lemma keyedRun_alike : keyedRun.Alike keyedRun := program_alike _ _

lemma stirred_keyed {members : Scope} (hmembers : members.Perm keyedMembers) :
    ∃ n, keyedRun.Stirred n (.start keyedProgram.code) (.ended (keyedEnd members)) := by
  obtain ⟨n, h⟩ := stirred_script keyedRun_alike keyedProgram.code
  rw [script_keyed] at h
  have hscopes : ScopesAlike [[]] [[]] := .cons Bindings.related_nil .nil
  exact ⟨n, h.stirred_end ⟨.give (keyedMembers_alike hmembers), ⟨hscopes, rfl, rfl, rfl⟩, .nil⟩⟩

/-- The theorem at that program, its members being turned round at the end of
one of two runs. -/
theorem map_order_never_shows_keyed :
    (∃ n, keyedRun.Stirred n (.start keyedProgram.code)
      (.ended (keyedRun.script keyedProgram.code .start)))
    ∧ EndsAlike Value.Alike (keyedEnd keyedMembers) (keyedEnd keyedMembers.reverse)
    ∧ Shows id (keyedProgram.expandEnd Recipe.force (keyedEnd keyedMembers.reverse))
      keyedProgram.sample
    ∧ Value.shown (.object keyedMembers) = Value.shown (.object keyedMembers.reverse) := by
  obtain ⟨-, hends, hscript, hsample, hshown⟩ := map_order_never_shows
  obtain ⟨n, h⟩ := stirred_keyed (.refl keyedMembers)
  obtain ⟨k, h'⟩ := stirred_keyed (List.reverse_perm keyedMembers)
  exact ⟨hscript keyedRun keyedRun_alike _, (hends _ _ _ _ _ _ h h').2,
    hsample keyedProgram k _ h' Supply id _ force_alike,
    hshown _ _ (keyedMembers_alike (List.reverse_perm keyedMembers))⟩

end MockupStudio.Script
