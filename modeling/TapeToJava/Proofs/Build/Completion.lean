import TapeToJava.Proofs.Build.Emission
import TapeToJava.Proofs.Files.Staging

/-! The order in which the outputs of a build are written when nothing goes wrong: all of them are staged before
any is committed, and the Java file is committed before the line map. -/

namespace TapeToJava

open Volume

variable {o : BuildOptions} {g : Generated} {v w : Volume} {path : String}

namespace Emission

/-- The calls that write the outputs of a class, in their order and none of them with a fault. -/
inductive Completes (o : BuildOptions) (g : Generated) (v : Volume) : Volume → Prop
  | java {java : Staged} {v₁ w : Volume} (hmap : o.sourceMap = none)
      (hstage : v.stage o.output g.java.text = (.ok java, v₁))
      (hcommit : v₁.commit java = (.ok (), w)) : Completes o g v w
  | both {path : String} {java lineMap : Staged} {v₁ v₂ u w : Volume} (hmap : o.sourceMap = some path)
      (hstage : v.stage o.output g.java.text = (.ok java, v₁))
      (hstageMap : v₁.stage path g.java.lineMap.text = (.ok lineMap, v₂))
      (hcommit : v₂.commit java = (.ok (), u))
      (hcommitMap : u.commit lineMap = (.ok (), w)) : Completes o g v w

end Emission

/-- A build that writes all its outputs: the source file is loaded, its class is generated, and each of the calls
that write succeeds. -/
def BuildOptions.Emits (o : BuildOptions) (g : Generated) (v w : Volume) : Prop :=
  ∃ f, v.load o.source = .ok f ∧ f.generate o.resolvedClassName = .ok g ∧ Emission.Completes o g v w

namespace Emission

/-! ### Emission and its calls -/

theorem Completes.ofGenerated_eq_ok (h : Completes o g v w) :
    (Emission.ofGenerated o g v).result = .ok () ∧ (Emission.ofGenerated o g v).volume = w := by
  cases h with
  | java hmap hstage hcommit =>
      simp only [Emission.ofGenerated, hstage, stageLineMap, hmap, commitAll, hcommit, commitLineMap, and_self]
  | both hmap hstage hstageMap hcommit hcommitMap =>
      simp only [Emission.ofGenerated, hstage, stageLineMap, hmap, hstageMap, commitAll, hcommit, commitLineMap,
        hcommitMap, and_self]

theorem stageLineMap_eq_ok {lineMap : Option Staged} (h : stageLineMap o g v = (.ok lineMap, w)) :
    (o.sourceMap = none ∧ lineMap = none ∧ w = v) ∨
      ∃ path s, o.sourceMap = some path ∧ lineMap = some s ∧ v.stage path g.java.lineMap.text = (.ok s, w) := by
  unfold stageLineMap at h
  split at h
  · rename_i hmap
    cases h
    exact Or.inl ⟨hmap, rfl, rfl⟩
  · rename_i path hmap
    split at h
    · cases h
    · rename_i s _ hstage
      cases h
      exact Or.inr ⟨path, s, hmap, rfl, hstage⟩

theorem commit_of_commitLineMap {s : Staged} (h : (commitLineMap v (some s)).result = .ok ()) :
    v.commit s = (.ok (), (commitLineMap v (some s)).volume) := by
  unfold commitLineMap at h ⊢
  dsimp only at h ⊢
  split at h
  · cases h
  · rename_i hcommit
    simp only [hcommit]

theorem completes_of_ofGenerated_eq_ok (h : (Emission.ofGenerated o g v).result = .ok ()) :
    Completes o g v (Emission.ofGenerated o g v).volume := by
  unfold Emission.ofGenerated at h ⊢
  split at h
  · cases h
  rename_i java v₁ hstage
  split at h
  · cases h
  rename_i lineMap v₂ hstageMap
  unfold commitAll at h
  split at h
  · cases h
  rename_i u hcommit
  simp only [commitAll, hcommit]
  rcases stageLineMap_eq_ok hstageMap with ⟨hmap, rfl, rfl⟩ | ⟨path, s, hmap, rfl, hstage'⟩
  · exact .java hmap hstage hcommit
  · exact .both hmap hstage hstage' hcommit (commit_of_commitLineMap h)

theorem ofOptions_eq_ok_iff :
    (ofOptions o v).result = .ok g ∧ (ofOptions o v).volume = w ↔ o.Emits g v w := by
  constructor
  · rintro ⟨hresult, rfl⟩
    unfold ofOptions at hresult ⊢
    split at hresult
    · cases hresult
    rename_i f hload
    split at hresult
    · cases hresult
    rename_i g' hgenerate
    dsimp only at hresult ⊢
    cases hwritten : (Emission.ofGenerated o g' v).result with
    | error e =>
        rw [hwritten] at hresult
        cases hresult
    | ok _ =>
        rw [hwritten] at hresult
        cases hresult
        exact ⟨f, hload, hgenerate, completes_of_ofGenerated_eq_ok hwritten⟩
  · rintro ⟨f, hload, hgenerate, hcompletes⟩
    obtain ⟨hresult, hvolume⟩ := hcompletes.ofGenerated_eq_ok
    simp only [ofOptions, hload, hgenerate, hresult, hvolume, Except.map, and_self]

end Emission

/-! ### Both commits -/

/-- The line map has been committed last, to files of which the output file already held the class, and the log
tells of both commits in this order. -/
structure BuildOptions.CommitsLast (o : BuildOptions) (g : Generated) (v : Volume) (path : String) (u w : Volume)
    (events : List Log.Event) : Prop where
  exists_commits : ∃ java lineMap v₁ v₂, v.stage o.output g.java.text = (.ok java, v₁) ∧
    v₁.stage path g.java.lineMap.text = (.ok lineMap, v₂) ∧ v₂.commit java = (.ok (), u) ∧
    u.commit lineMap = (.ok (), w)
  stat_output : ∃ mode, u.stat o.output = .ok (.file mode (Text.Utf8.encode g.java.text ++ [0x0A]))
  sublist_events : [BuildEvent.wroteJava o g, BuildEvent.wroteLineMap path].Sublist events

/-- A longer log tells of the commits, too. -/
theorem BuildOptions.CommitsLast.of_prefix {u : Volume} {events events' : List Log.Event}
    (h : o.CommitsLast g v path u w events) (hevents : events <+: events') : o.CommitsLast g v path u w events' :=
  ⟨h.exists_commits, h.stat_output, h.sublist_events.trans hevents.sublist⟩

theorem BuildOptions.Emits.exists_commitsLast (h : o.Emits g v w) (hmap : o.sourceMap = some path) :
    ∃ u, o.CommitsLast g v path u w (Emission.ofOptions o v).events := by
  obtain ⟨f, hload, hgenerate, hcompletes⟩ := h
  cases hcompletes with
  | java hnone =>
      rw [hmap] at hnone
      cases hnone
  | @both path' java lineMap v₁ v₂ u w hmap' hstage hstageMap hcommit hcommitMap =>
      cases hmap.symm.trans hmap'
      obtain ⟨_, hjava, -⟩ := stage_eq_ok hstage
      obtain ⟨_, hlineMap, -⟩ := stage_eq_ok hstageMap
      refine ⟨u, ⟨java, lineMap, v₁, v₂, hstage, hstageMap, hcommit, hcommitMap⟩, ?_, ?_⟩
      · -- Both staged files are held when the Java file is committed.
        have hstaged : Staging.Reachable v
            ⟨v₂, [⟨lineMap, g.java.lineMap.text, v₁⟩, ⟨java, g.java.text, v⟩]⟩ :=
          (Relation.ReflTransGen.refl.tail (.stage hstage)).tail (.stage hstageMap)
        rcases hstaged.accounts.commit_cases (List.mem_cons_of_mem _ List.mem_cons_self) with
          ⟨fault, _, hfails, -⟩ | ⟨place, mode, _, hdone, -, -, -, hstat⟩
        · cases hcommit.symm.trans hfails
        · cases hcommit.symm.trans hdone
          rw [hjava.target_eq] at hstat
          exact ⟨mode, hstat⟩
      · simp only [Emission.ofOptions, hload, hgenerate, Emission.ofGenerated, hstage, Emission.stageLineMap, hmap,
          hstageMap, Emission.commitAll, hcommit, Emission.commitLineMap, hcommitMap, hlineMap.target_eq]
        exact List.sublist_append_right _ _

end TapeToJava
