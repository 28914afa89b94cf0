import UsageMetrics.Proofs.Calendar.IsoText
import UsageMetrics.Proofs.Daily.Sound
import UsageMetrics.Proofs.Feed.Settled
import UsageMetrics.Proofs.Sample.Draw
import UsageMetrics.Sample.Telemetry

namespace UsageMetrics.Sample

open UsageMetrics.Calendar UsageMetrics.Feed UsageMetrics.Text Draw

def Named (name : String) : Prop := allBlank name = false

instance (name : String) : Decidable (Named name) := inferInstanceAs (Decidable (_ = false))

theorem Named.tag {name : String} (named : Named name) : Tag.Sound ⟨some name, []⟩ :=
  ⟨⟨name, rfl, named⟩, rfl⟩

section Entries

variable {name : String} (named : Named name) {users : Nat}

include named

theorem languageEntry_reads {suggestions acceptances lines accepted : Nat}
    (offered : acceptances ≤ suggestions) (written : accepted ≤ lines) :
    Shape.languageActivity.Reads (fun r => r.languageActivity.Sound)
      (languageEntry (.text name) (count suggestions) (count acceptances) (count lines)
        (count accepted) (count users)) :=
  Settled.reads (.cons .text (.cons .count (.cons .count (.cons .count (.cons .count
    (.cons .count .nil)))))) rfl ⟨named.tag, offered, written⟩

theorem modelEntry_reads {entries : List Value} (reads : ∀ entry ∈ entries,
    Shape.languageActivity.Reads (fun r => r.languageActivity.Sound) entry) :
    Shape.completionModel.Reads (fun r => r.completionModel.Sound)
      (modelEntry (name, .list entries)) := by
  obtain ⟨languages, settles, sound⟩ := Kind.Settles.many reads
  exact Settled.reads (.cons .text (.cons .absent (.cons .flag (.cons .absent (.cons settles
    .nil))))) rfl ⟨named.tag, List.forall_mem_map.mpr sound⟩

theorem editorEntry_reads {models : List (String × Value)} (reads : ∀ model ∈ models,
    Shape.completionModel.Reads (fun r => r.completionModel.Sound) (modelEntry model)) :
    Shape.completionEditor.Reads (fun r => r.completionEditor.Sound)
      (editorEntry (count users) (name, models)) := by
  obtain ⟨records, settles, sound⟩ := Kind.Settles.many (List.forall_mem_map.mpr reads)
  exact Settled.reads (.cons .text (.cons .count (.cons settles .nil))) rfl
    ⟨named.tag, List.forall_mem_map.mpr sound⟩

theorem listedLanguage_reads : Shape.languageUsers.Reads (fun r => r.languageUsers.tag.Sound)
    (.object [("name", .text name), ("total_engaged_users", count users)]) :=
  Settled.reads (.cons .text (.cons .count .nil)) rfl named.tag

end Entries

theorem completionsGroup_reads {editors : List (String × List (String × Value))}
    {languages : List (String × Nat)} {users most : Nat} (within : users ≤ most)
    (inEditors : ∀ editor ∈ editors, Named editor.1 ∧ ∀ model ∈ editor.2,
      Shape.completionModel.Reads (fun r => r.completionModel.Sound) (modelEntry model))
    (listed : ∀ language ∈ languages, Named language.1) :
    Shape.completions.Reads
      (fun r => r.completions.Sound ∧ r.completions.engagedUsers ≤ most)
      (completionsGroup editors (languages.map fun language => (language.1, count language.2))
        (count users)) := by
  have readLanguages : ∀ entry ∈ (languages.map fun language => (language.1, count language.2)).map
      (fun language =>
        Value.object [("name", .text language.1), ("total_engaged_users", language.2)]),
      Shape.languageUsers.Reads (fun r => r.languageUsers.tag.Sound) entry := by
    simp only [List.forall_mem_map]
    exact fun language member => listedLanguage_reads (listed language member)
  have readEditors : ∀ entry ∈ editors.map (editorEntry (count users)),
      Shape.completionEditor.Reads (fun r => r.completionEditor.Sound) entry := by
    rw [List.forall_mem_map]
    exact fun editor member =>
      editorEntry_reads (inEditors editor member).1 (inEditors editor member).2
  obtain ⟨languageRecords, settlesLanguages, soundLanguages⟩ := Kind.Settles.many readLanguages
  obtain ⟨editorRecords, settlesEditors, soundEditors⟩ := Kind.Settles.many readEditors
  exact Settled.reads (.cons .count (.cons settlesLanguages (.cons settlesEditors .nil))) rfl
    ⟨⟨rfl, List.forall_mem_map.mpr soundLanguages, List.forall_mem_map.mpr soundEditors⟩, within⟩

theorem drawLanguage_reads {name : String} (named : Named name) :
    Always (drawLanguage name) fun drawn =>
      Shape.languageActivity.Reads (fun r => r.languageActivity.Sound) drawn.1 ∧
        Named drawn.2.1 := by
  refine (between_within (Nat.zero_le 400)).bind fun suggestions _ => ?_
  refine (between_within (Nat.zero_le suggestions)).bind fun acceptances offered => ?_
  refine (between_within (by decide)).bind fun factor _ => ?_
  refine (between_within (Nat.zero_le _)).bind fun accepted written => ?_
  refine (between_within (by decide)).bind fun users _ => ?_
  refine (between_within (by decide)).bind fun added _ => .pure ?_
  exact ⟨languageEntry_reads named offered.2 written.2, named⟩

theorem languages_named : ∀ name ∈ languages, Named name := by decide

theorem editors_named : ∀ name ∈ editors, Named name := by decide

theorem models_named : ∀ name ∈ models, Named name := by decide

theorem repositories_named : ∀ name ∈ repositories, Named name := by decide

theorem drawModel_reads {name : String} (named : Named name) :
    Always (drawModel name) fun drawn =>
      Shape.completionModel.Reads (fun r => r.completionModel.Sound) (modelEntry drawn.1) ∧
        ∀ users ∈ drawn.2, Named users.1 := by
  refine (takeSome_mem (by decide)).bind fun chosen members => ?_
  refine (Always.mapM_all fun language member =>
    drawLanguage_reads (languages_named language (members language member))).bind
      fun drawn all => ?_
  refine .pure ⟨modelEntry_reads named ?_, ?_⟩
  · exact List.forall_mem_map.mpr fun entry member => (all entry member).1
  · exact List.forall_mem_map.mpr fun entry member => (all entry member).2

theorem drawEditor_reads {name : String} (named : Named name) :
    Always (drawEditor name) fun drawn =>
      (Named drawn.1.1 ∧ ∀ model ∈ drawn.1.2,
        Shape.completionModel.Reads (fun r => r.completionModel.Sound) (modelEntry model)) ∧
        ∀ users ∈ drawn.2, Named users.1 := by
  refine (Always.mapM_all fun model member =>
    drawModel_reads (models_named model (List.mem_of_mem_take member))).bind fun drawn all => ?_
  refine .pure ⟨⟨named, ?_⟩, ?_⟩
  · exact List.forall_mem_map.mpr fun model member => (all model member).1
  · exact List.forall_mem_flatMap.mpr fun model member => (all model member).2

theorem tallyUsers_named {entries : List (String × Nat)}
    (named : ∀ entry ∈ entries, Named entry.1) : ∀ entry ∈ tallyUsers entries, Named entry.1 := by
  induction entries with
  | nil => exact List.forall_mem_nil _
  | cons entry rest ih =>
    obtain ⟨first, others⟩ := List.forall_mem_cons.mp named
    exact List.forall_mem_cons.mpr ⟨first, fun entry member =>
      ih others entry (List.mem_of_mem_filter member)⟩

theorem drawChatModel_reads {name : String} (named : Named name) :
    Always (drawChatModel name)
      (Shape.chatModel.Reads fun r => r.chatModel.tag.Sound) := by
  refine (between_within (by decide)).bind fun users _ => ?_
  refine (between_within (by decide)).bind fun chats _ => ?_
  refine (between_within (by decide)).bind fun copies _ => ?_
  refine (between_within (by decide)).bind fun insertions _ => .pure ?_
  exact Settled.reads (.cons .text (.cons .count (.cons .absent (.cons .absent (.cons .count
    (.cons .count (.cons .count .nil))))))) rfl named.tag

theorem drawChatEditor_reads {name : String} (named : Named name) :
    Always (drawChatEditor name) (Shape.chatEditor.Reads fun r => r.chatEditor.Sound) := by
  refine (between_within (by decide)).bind fun users _ => ?_
  refine (Always.mapM_all fun model member =>
    drawChatModel_reads (models_named model member)).bind fun entries reads => .pure ?_
  obtain ⟨records, settles, sound⟩ := Kind.Settles.many reads
  exact Settled.reads (.cons .text (.cons .count (.cons settles .nil))) rfl
    ⟨named.tag, List.forall_mem_map.mpr sound⟩

theorem drawIdeChat_reads : Always drawIdeChat
    (Shape.ideChat.Reads fun r => r.ideChat.Sound ∧ r.ideChat.engagedUsers ≤ 40) := by
  refine (between_within (by decide)).bind fun users within => ?_
  refine (Always.mapM_all fun editor member =>
    drawChatEditor_reads (editors_named editor (List.mem_of_mem_take member))).bind
      fun entries reads => .pure ?_
  obtain ⟨records, settles, sound⟩ := Kind.Settles.many reads
  exact Settled.reads (.cons .count (.cons settles .nil)) rfl
    ⟨⟨rfl, List.forall_mem_map.mpr sound⟩, within.2⟩

theorem drawDotcomChat_reads : Always drawDotcomChat
    (Shape.dotcomChat.Reads fun r => r.dotcomChat.Sound ∧ r.dotcomChat.engagedUsers ≤ 15) := by
  refine (between_within (by decide)).bind fun users within => ?_
  refine (between_within (by decide)).bind fun modelUsers _ => ?_
  refine (between_within (by decide)).bind fun chats _ => .pure ?_
  have usual : Named "default" := by decide
  have model : Shape.dotcomChatModel.Reads (fun r => r.dotcomChatModel.tag.Sound)
      (.object [("name", .text "default"), ("total_engaged_users", count modelUsers),
        ("total_chats", count chats)]) :=
    Settled.reads (.cons .text (.cons .count (.cons .absent (.cons .absent (.cons .count .nil)))))
      rfl usual.tag
  obtain ⟨records, settles, sound⟩ := Kind.Settles.many (List.forall_mem_singleton.mpr model)
  exact Settled.reads (.cons .count (.cons settles .nil)) rfl
    ⟨⟨rfl, List.forall_mem_map.mpr sound⟩, within.2⟩

theorem drawRepository_reads {name : String} (named : Named name) :
    Always (drawRepository name) (Shape.repository.Reads fun r => r.repository.Sound) := by
  refine (between_within (by decide)).bind fun users _ => ?_
  refine (between_within (by decide)).bind fun summaries _ => .pure ?_
  have usual : Named "default" := by decide
  have model : Shape.pullRequestModel.Reads (fun r => r.pullRequestModel.tag.Sound)
      (.object [("name", .text "default"), ("total_engaged_users", count 1),
        ("total_pr_summaries_created", count summaries)]) :=
    Settled.reads (.cons .text (.cons .count (.cons .absent (.cons .absent (.cons .count .nil)))))
      rfl usual.tag
  obtain ⟨records, settles, sound⟩ := Kind.Settles.many (List.forall_mem_singleton.mpr model)
  exact Settled.reads (.cons .text (.cons .count (.cons settles .nil))) rfl
    ⟨named.tag, List.forall_mem_map.mpr sound⟩

theorem drawPullRequests_reads : Always drawPullRequests
    (Shape.pullRequests.Reads fun r => r.pullRequests.Sound ∧
      r.pullRequests.engagedUsers ≤ 8) := by
  refine (between_within (by decide)).bind fun users within => ?_
  refine (takeSome_mem (by decide)).bind fun chosen members => ?_
  refine (Always.mapM_all fun repository member =>
    drawRepository_reads (repositories_named repository (members repository member))).bind
      fun entries reads => .pure ?_
  obtain ⟨records, settles, sound⟩ := Kind.Settles.many reads
  exact Settled.reads (.cons .count (.cons settles .nil)) rfl
    ⟨⟨rfl, List.forall_mem_map.mpr sound⟩, within.2⟩

def SoundOn (day : Day) : Value → Prop :=
  Shape.daily.Reads fun r => r.daily.Sound ∧ r.daily.UsersFit ∧ r.daily.date = some day.iso

def GroupReads (shape : Shape) (holds : Record → Prop) (group : Value) : Prop :=
  group = .null ∧ holds shape.blank ∨ shape.Reads holds group

theorem GroupReads.settles {shape : Shape} {holds : Record → Prop} {group : Value}
    (reads : GroupReads shape holds group) :
    (group = .null ∨ ∃ given, group = .object given) ∧
      ∃ r, (Kind.one shape).Settles (Value.at? [("", group)] "") (.one r) ∧ holds r := by
  rcases reads with ⟨rfl, blank⟩ | reads
  · exact ⟨.inl rfl, _, .absent, blank⟩
  · obtain ⟨r, settles, held⟩ := Kind.Settles.one reads
    obtain ⟨given, rfl, -⟩ := reads
    exact ⟨.inr ⟨given, rfl⟩, r, settles, held⟩

theorem dailyRecord_reads {day : Day} {active engaged : Nat}
    {completions ideChat dotcomChat pullRequests : Value} (activeUsers : 80 ≤ active)
    (engagedUsers : engaged ≤ active)
    (readsCompletions : GroupReads .completions
      (fun r => r.completions.Sound ∧ r.completions.engagedUsers ≤ engaged) completions)
    (readsIdeChat : GroupReads .ideChat
      (fun r => r.ideChat.Sound ∧ r.ideChat.engagedUsers ≤ 40) ideChat)
    (readsDotcomChat : GroupReads .dotcomChat
      (fun r => r.dotcomChat.Sound ∧ r.dotcomChat.engagedUsers ≤ 15) dotcomChat)
    (readsPullRequests : GroupReads .pullRequests
      (fun r => r.pullRequests.Sound ∧ r.pullRequests.engagedUsers ≤ 8) pullRequests) :
    SoundOn day (dailyRecord (.text day.iso) (count active) (count engaged) completions ideChat
      dotcomChat pullRequests) := by
  obtain ⟨formCompletions, c, settlesCompletions, completions, completionsUsers⟩ :=
    readsCompletions.settles
  obtain ⟨formIdeChat, i, settlesIdeChat, ideChat, ideChatUsers⟩ := readsIdeChat.settles
  obtain ⟨formDotcomChat, d, settlesDotcomChat, dotcomChat, dotcomChatUsers⟩ :=
    readsDotcomChat.settles
  obtain ⟨formPullRequests, p, settlesPullRequests, pullRequests, pullRequestsUsers⟩ :=
    readsPullRequests.settles
  have sound : DailyRecord.Sound ⟨[], some day.iso, active, engaged, c.completions, i.ideChat,
      d.dotcomChat, p.pullRequests⟩ := ⟨rfl, completions, ideChat, dotcomChat, pullRequests⟩
  have few {users most : Nat} (within : users ≤ most) (bound : most ≤ 80) : users ≤ active := by
    omega
  have fit : DailyRecord.UsersFit ⟨[], some day.iso, active, engaged, c.completions, i.ideChat,
      d.dotcomChat, p.pullRequests⟩ :=
    ⟨engagedUsers, completionsUsers, few ideChatUsers (by decide), few dotcomChatUsers (by decide),
      few pullRequestsUsers (by decide)⟩
  rcases formCompletions with rfl | ⟨_, rfl⟩ <;> rcases formIdeChat with rfl | ⟨_, rfl⟩ <;>
    rcases formDotcomChat with rfl | ⟨_, rfl⟩ <;> rcases formPullRequests with rfl | ⟨_, rfl⟩ <;>
    exact Settled.reads (.cons .day (.cons .count (.cons .count (.cons settlesCompletions
      (.cons settlesIdeChat (.cons settlesDotcomChat (.cons settlesPullRequests .nil))))))) rfl
      ⟨sound, fit, rfl⟩

/-- Every bound leaves something to draw, whatever was drawn before, and every record is sound. -/
theorem drawDay_sound (day : Day) (offset : Nat) :
    Always (drawDay day offset) (SoundOn day) := by
  refine (between_within (by decide)).bind fun active activeUsers => ?_
  refine (between_within (by omega)).bind fun engaged engagedUsers => ?_
  refine (Always.mapM_all fun editor member =>
    drawEditor_reads (editors_named editor member)).bind fun drawn inEditors => ?_
  refine drawIdeChat_reads.bind fun ideChat readsIdeChat => ?_
  refine (between_within (by omega)).bind fun completionUsers users => ?_
  have noChat : GroupReads .dotcomChat
      (fun r => r.dotcomChat.Sound ∧ r.dotcomChat.engagedUsers ≤ 15) .null :=
    .inl ⟨rfl, ⟨rfl, nofun⟩, by decide⟩
  refine Always.optional noChat (drawDotcomChat_reads.imp fun _ reads => .inr reads)
    fun dotcomChat readsDotcomChat => ?_
  have noRequests : GroupReads .pullRequests
      (fun r => r.pullRequests.Sound ∧ r.pullRequests.engagedUsers ≤ 8) .null :=
    .inl ⟨rfl, ⟨rfl, nofun⟩, by decide⟩
  refine Always.optional noRequests (drawPullRequests_reads.imp fun _ reads => .inr reads)
    fun pullRequests readsPullRequests => ?_
  have completions := completionsGroup_reads users.2
    (List.forall_mem_map.mpr fun editor member => (inEditors editor member).1)
    (tallyUsers_named (List.forall_mem_flatMap.mpr fun editor member =>
      (inEditors editor member).2))
  exact .pure (dailyRecord_reads activeUsers.1 engagedUsers.2 (.inr completions) (.inr readsIdeChat)
    readsDotcomChat readsPullRequests)

theorem drawWindow_sound (days : List Day) : Always (drawWindow days) fun raws =>
    ∃ records, raws.Perm records ∧ List.Forall₂ SoundOn days records := by
  have each : ∀ dated ∈ days.zipIdx, Always (drawDay dated.1 dated.2) (SoundOn dated.1) :=
    fun dated _ => drawDay_sound dated.1 dated.2
  refine (Always.mapM each).bind fun records sound => (shuffle_perm records).imp fun raws order =>
    ⟨records, order, ?_⟩
  have dated : List.Forall₂ SoundOn (days.zipIdx.map Prod.fst) records :=
    List.forall₂_map_left_iff.mpr sound
  rwa [List.zipIdx_map_fst] at dated

end UsageMetrics.Sample
