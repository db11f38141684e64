import ScrobbleRelay.Proofs.Ends
import ScrobbleRelay.Proofs.Text.Lines
import ScrobbleRelay.Service.Audioscrobbler.Protocol

/-!
# The grammar of answers

A handshake answer grants a session exactly where its first line tells of
success and the next two lines, trimmed, are the texts of the session.  What an
answer comes to, its error included, is read off its first lines alone, and
those do not depend on how lines end or on the blanks around them.
-/

namespace ScrobbleRelay.Service.Audioscrobbler

variable {σ : Type}

/-! ## What is read off the lines of an answer -/

/-- The trimmed line of an answer at a place, which is empty where there is no
such line. -/
def answerLine (body : String) (i : Nat) : String :=
  String.ofList (Text.lineAt body.toList i)

theorem getElem?_answerLines (body : String) (i : Nat) :
    (answerLines body)[i]?.getD "" = answerLine body i :=
  Text.getElem?_lines_trim body i

theorem demandLine_getD (fault : HandshakeFault) (line : Option String) :
    demandLine fault line = demandLine fault (some (line.getD "")) := by
  cases line with
  | none => rfl
  | some line => rfl

/-- What three lines of a handshake answer come to. -/
def sessionFrom (status challenge submitUrl : String) :
    Except HandshakeFault Session := do
  let _ ← readStatus status
  let challenge ← demandLine .noChallenge (some challenge)
  let submitUrl ← demandLine .noUrl (some submitUrl)
  return ⟨challenge, submitUrl⟩

/-- A handshake answer comes to what its first three lines come to. -/
theorem readHandshake_ending (body : String) (w : σ) :
    ((readHandshake body : Task HandshakeFault σ Session).run w).ending =
      ((Task.ofExcept (sessionFrom (answerLine body 0) (answerLine body 1)
        (answerLine body 2)) : Task HandshakeFault σ Session).run w).ending := by
  unfold readHandshake sessionFrom
  simp only
  rw [getElem?_answerLines, demandLine_getD .noChallenge,
    demandLine_getD .noUrl, getElem?_answerLines, getElem?_answerLines]
  cases readStatus (answerLine body 0) with
  | error fault => rfl
  | ok news =>
      cases news <;>
      cases (answerLines body)[3]?.bind (Text.after? "INTERVAL") <;>
      cases demandLine .noChallenge (some (answerLine body 1)) <;>
      cases demandLine .noUrl (some (answerLine body 2)) <;>
      rfl

theorem readReceipt_eq_of_line {body body' : String}
    (h : answerLine body 0 = answerLine body' 0) :
    readReceipt body = readReceipt body' := by
  unfold readReceipt
  rw [getElem?_answerLines, getElem?_answerLines, h]

/-- Two answers that come to the same, to a handshake and to a submission. -/
structure Alike (w : σ) (body body' : String) : Prop where
  handshake : ((readHandshake body : Task HandshakeFault σ Session).run w).ending =
    ((readHandshake body' : Task HandshakeFault σ Session).run w).ending
  receipt : readReceipt body = readReceipt body'

theorem readHandshake_ending_eq_of_lines {body body' : String} (w : σ)
    (h : ∀ i < 3, answerLine body i = answerLine body' i) :
    ((readHandshake body : Task HandshakeFault σ Session).run w).ending =
      ((readHandshake body' : Task HandshakeFault σ Session).run w).ending := by
  rw [readHandshake_ending, readHandshake_ending, h 0 (by decide),
    h 1 (by decide), h 2 (by decide)]

theorem alike_of_lines {body body' : String} (w : σ)
    (h : ∀ i, Text.lineAt body.toList i = Text.lineAt body'.toList i) :
    Alike w body body' where
  handshake := readHandshake_ending_eq_of_lines w
    fun i _ => congrArg String.ofList (h i)
  receipt := readReceipt_eq_of_line (congrArg String.ofList (h 0))

/-! ## Answers that grant a session -/

/-- A handshake answer by its lines: the first trims to `UPTODATE` or begins,
when trimmed, with `UPDATE`, and the next two trim to the texts of a session,
which are not empty. -/
def Grants (body : String) (session : Session) : Prop :=
  ∃ status text challenge submitUrl more,
    body.toList.splitOn '\n' = status :: challenge :: submitUrl :: more ∧
    Text.TrimsTo status text ∧
    (text = "UPTODATE".toList ∨ "UPDATE".toList <+: text) ∧
    Text.TrimsTo challenge session.challenge.toList ∧ session.challenge ≠ "" ∧
    Text.TrimsTo submitUrl session.submitUrl.toList ∧ session.submitUrl ≠ ""

/-- A text that a line can be: it is not empty, stands on one line and has no
blanks at its ends. -/
structure Clean (text : String) : Prop where
  nonempty : text ≠ ""
  oneLine : '\n' ∉ text.toList
  trimmed : Text.Trimmed text.toList

theorem after?_eq_none_iff {opening s : String} :
    Text.after? opening s = none ↔ ¬ opening.toList <+: s.toList := by
  rw [Text.after?, ite_eq_right_iff, ← List.isPrefixOf_iff_prefix]
  simp

theorem readStatus_ok_iff (status : String) :
    (∃ news, readStatus status = .ok news) ↔
      status = "UPTODATE" ∨ "UPDATE".toList <+: status.toList := by
  unfold readStatus
  by_cases huptodate : status = "UPTODATE"
  · simp only [huptodate, if_true, true_or, iff_true]
    exact ⟨none, rfl⟩
  · simp only [huptodate, if_false, false_or]
    cases hupdate : Text.after? "UPDATE" status with
    | some url =>
        have hprefix : "UPDATE".toList <+: status.toList := by
          by_contra hnot
          rw [after?_eq_none_iff.mpr hnot] at hupdate
          cases hupdate
        exact iff_of_true ⟨some (Text.trim url), rfl⟩ hprefix
    | none =>
        refine iff_of_false ?_ (after?_eq_none_iff.mp hupdate)
        rintro ⟨news, hnews⟩
        by_cases hunknown : status = "BADUSER"
        · simp [hunknown] at hnews
        · cases hrefused : Text.after? "FAILED" status with
          | some reason => simp [hunknown, hrefused] at hnews
          | none => simp [hunknown, hrefused] at hnews

theorem demandLine_eq_ok_iff {fault : HandshakeFault} {line text : String} :
    demandLine fault (some line) = .ok text ↔ line = text ∧ text ≠ "" := by
  by_cases hempty : line = ""
  · subst hempty
    refine iff_of_false (fun h => nomatch h) ?_
    rintro ⟨rfl, hne⟩
    exact hne rfl
  · have hok : demandLine fault (some line) = .ok line :=
      if_neg (by simpa using hempty)
    rw [hok, Except.ok.injEq]
    constructor
    · rintro rfl
      exact ⟨rfl, hempty⟩
    · exact And.left

/-- Three lines give a session where the first tells of success and the others
are its texts, which are not empty. -/
theorem sessionFrom_eq_ok_iff {status challenge submitUrl : String}
    {session : Session} :
    sessionFrom status challenge submitUrl = .ok session ↔
      (status = "UPTODATE" ∨ "UPDATE".toList <+: status.toList) ∧
      (challenge = session.challenge ∧ session.challenge ≠ "") ∧
      submitUrl = session.submitUrl ∧ session.submitUrl ≠ "" := by
  unfold sessionFrom
  rw [← readStatus_ok_iff]
  simp only [bind_eq_ok_iff, demandLine_eq_ok_iff]
  constructor
  · rintro ⟨news, hnews, _, hchallenge, _, hurl, hsession⟩
    obtain rfl := Except.ok.inj hsession
    exact ⟨⟨news, hnews⟩, hchallenge, hurl⟩
  · rintro ⟨⟨news, hnews⟩, hchallenge, hurl⟩
    exact ⟨news, hnews, _, hchallenge, _, hurl, rfl⟩

theorem readHandshake_done_iff {body : String} {session : Session} (w : σ) :
    ((readHandshake body : Task HandshakeFault σ Session).run w).ending =
        .done session ↔
      sessionFrom (answerLine body 0) (answerLine body 1)
        (answerLine body 2) = .ok session := by
  rw [readHandshake_ending]
  cases sessionFrom (answerLine body 0) (answerLine body 1)
      (answerLine body 2) with
  | error fault =>
      exact iff_of_false (fun h => nomatch h) (fun h => nomatch h)
  | ok granted =>
      rw [Task.run_ofExcept_ok, Ending.done.injEq, Except.ok.injEq]

theorem answerLine_eq_iff {body text : String} {i : Nat} (hne : text ≠ "") :
    answerLine body i = text ↔
      ∃ line, (body.toList.splitOn '\n')[i]? = some line ∧
        Text.TrimsTo line text.toList := by
  have hlist : text.toList ≠ [] := by
    rwa [Ne, String.toList_eq_nil_iff]
  rw [← Text.lineAt_eq_iff hlist, answerLine, ← String.toList_inj,
    String.toList_ofList]

theorem grants_iff {body : String} {session : Session} :
    Grants body session ↔
      sessionFrom (answerLine body 0) (answerLine body 1)
        (answerLine body 2) = .ok session := by
  rw [sessionFrom_eq_ok_iff]
  constructor
  · rintro ⟨status, text, challenge, submitUrl, more, hlines, hstatus, htext,
      hchallenge, hne, hurl, hne'⟩
    have hfirst : answerLine body 0 = String.ofList text := by
      rw [answerLine, Text.lineAt, hlines]
      exact congrArg String.ofList (Text.trimChars_eq_iff.mpr hstatus)
    refine ⟨?_, ⟨(answerLine_eq_iff hne).mpr ⟨challenge, ?_, hchallenge⟩, hne⟩,
      (answerLine_eq_iff hne').mpr ⟨submitUrl, ?_, hurl⟩, hne'⟩
    · rw [hfirst, String.toList_ofList, ← String.toList_inj,
        String.toList_ofList]
      exact htext
    · rw [hlines]
      rfl
    · rw [hlines]
      rfl
  · rintro ⟨hstatus, ⟨hchallenge, hne⟩, hurl, hne'⟩
    have hfirst : answerLine body 0 ≠ "" := by
      intro hempty
      rw [hempty] at hstatus
      revert hstatus
      decide
    obtain ⟨status, hat, htrims⟩ := (answerLine_eq_iff hfirst).mp rfl
    obtain ⟨challenge, hat', htrims'⟩ := (answerLine_eq_iff hne).mp hchallenge
    obtain ⟨submitUrl, hat'', htrims''⟩ := (answerLine_eq_iff hne').mp hurl
    rw [← String.toList_inj] at hstatus
    rcases hlines : body.toList.splitOn '\n' with
      _ | ⟨status', _ | ⟨challenge', _ | ⟨submitUrl', more⟩⟩⟩
    · rw [hlines] at hat
      cases hat
    · rw [hlines] at hat'
      cases hat'
    · rw [hlines] at hat''
      cases hat''
    · rw [hlines] at hat hat' hat''
      cases hat
      cases hat'
      cases hat''
      exact ⟨status, _, challenge, submitUrl, more, hlines, htrims, hstatus,
        htrims', hne, htrims'', hne'⟩

theorem clean_of_trimsTo (body : String) {text : String} {line : List Char}
    (hline : line ∈ body.toList.splitOn '\n')
    (htrims : Text.TrimsTo line text.toList) (hne : text ≠ "") :
    Clean text := by
  obtain ⟨htrimmed, front, back, -, -, hcut⟩ := htrims
  refine ⟨hne, ?_, htrimmed⟩
  intro hnewline
  apply Text.notMem_of_mem_splitOn hline
  rw [hcut, List.append_assoc]
  exact List.mem_append_right _ (List.mem_append_left _ hnewline)

theorem Grants.clean {body : String} {session : Session}
    (h : Grants body session) :
    Clean session.challenge ∧ Clean session.submitUrl := by
  obtain ⟨status, text, challenge, submitUrl, more, hlines, -, -, hchallenge,
    hne, hurl, hne'⟩ := h
  constructor
  · apply clean_of_trimsTo body _ hchallenge hne
    simp [hlines]
  · apply clean_of_trimsTo body _ hurl hne'
    simp [hlines]

theorem Clean.trimsTo {text : String} (h : Clean text) :
    Text.TrimsTo text.toList text.toList := by
  refine ⟨h.trimmed, [], [], ?_, ?_, ?_⟩
  · simp [Text.Blanks]
  · simp [Text.Blanks]
  · simp

/-- The plainest answer that grants a session. -/
def plainAnswer (session : Session) : String :=
  "UPTODATE\n" ++ session.challenge ++ "\n" ++ session.submitUrl

theorem plainAnswer_grants {session : Session} (hchallenge : Clean session.challenge)
    (hurl : Clean session.submitUrl) :
    Grants (plainAnswer session) session := by
  have hlines : (plainAnswer session).toList.splitOn '\n' =
      ["UPTODATE".toList, session.challenge.toList, session.submitUrl.toList] := by
    have hbody : (plainAnswer session).toList =
        "UPTODATE".toList ++ '\n' :: (session.challenge.toList ++
          '\n' :: session.submitUrl.toList) := by
      simp [plainAnswer]
    rw [hbody, List.splitOn_append_cons_self_of_not_mem (by decide),
      List.splitOn_append_cons_self_of_not_mem hchallenge.oneLine,
      List.splitOn_eq_singleton hurl.oneLine]
  refine ⟨_, _, _, _, _, hlines, ?_, .inl rfl, hchallenge.trimsTo,
    hchallenge.nonempty, hurl.trimsTo, hurl.nonempty⟩
  exact Text.trimChars_eq_iff.mp (by decide)

/-! ## The grammar -/

/-- A handshake answer gives a session exactly where its lines grant that
session, and the sessions that can be given are those of clean texts.  What an
answer comes to, its error included, stays the same when line endings are
switched, when the last one is added or taken away, when blanks are added at
the ends of lines, and when more is added after the third line, or after the
first one for the answer to a submission. -/
theorem handshake_accepts_its_grammar (w : σ) :
    (∀ body session,
      ((readHandshake body : Task HandshakeFault σ Session).run w).ending =
          .done session ↔
        Grants body session) ∧
    (∀ session,
      (∃ body,
        ((readHandshake body : Task HandshakeFault σ Session).run w).ending =
          .done session) ↔
        Clean session.challenge ∧ Clean session.submitUrl) ∧
    (∀ body body', Text.Reended body.toList body'.toList →
      Alike w body body') ∧
    (∀ body ending, Text.LineEnding ending.toList →
      Alike w body (body ++ ending)) ∧
    (∀ body body', Text.Respaced body.toList body'.toList →
      Alike w body body') ∧
    (∀ body more, 3 ≤ body.toList.count '\n' →
      ((readHandshake (body ++ more) : Task HandshakeFault σ Session).run
          w).ending =
        ((readHandshake body : Task HandshakeFault σ Session).run w).ending) ∧
    ∀ body more, '\n' ∈ body.toList →
      readReceipt (body ++ more) = readReceipt body := by
  have hdone : ∀ body session,
      ((readHandshake body : Task HandshakeFault σ Session).run w).ending =
          .done session ↔
        Grants body session := by
    intro body session
    rw [readHandshake_done_iff, grants_iff]
  have happend : ∀ body more i, i < body.toList.count '\n' →
      answerLine (body ++ more) i = answerLine body i := by
    intro body more i hi
    rw [answerLine, String.toList_append, Text.lineAt_append_of_lt_count hi,
      answerLine]
  refine ⟨hdone, ?_, ?_, ?_, ?_, ?_, ?_⟩
  · intro session
    simp only [hdone]
    constructor
    · rintro ⟨body, hgrants⟩
      exact hgrants.clean
    · rintro ⟨hchallenge, hurl⟩
      exact ⟨_, plainAnswer_grants hchallenge hurl⟩
  · intro body body' hreended
    exact alike_of_lines w hreended.lineAt_eq
  · intro body ending hending
    apply alike_of_lines
    intro i
    rw [String.toList_append, hending.lineAt_last]
  · intro body body' hrespaced
    exact alike_of_lines w hrespaced.lineAt_eq
  · intro body more hcount
    apply readHandshake_ending_eq_of_lines
    intro i hi
    exact happend body more i (by omega)
  · intro body more hmem
    apply readReceipt_eq_of_line
    exact happend body more 0 (List.count_pos_iff.mpr hmem)

/-- An answer with news of an update, and the session in it. -/
def newsAnswer : String := "UPDATE soon\nkey\nhttp://[::1]/\n"

def newsSession : Session := ⟨"key", "http://[::1]/"⟩

/-- The same answer with some other line endings. -/
def newsAnswerWithReturns : String := "UPDATE soon\r\nkey\nhttp://[::1]/\r\n"

/-- The same answer with blanks at the ends of lines. -/
def newsAnswerWithBlanks : String := "\tUPDATE soon\nkey \r\nhttp://[::1]/\n\u00a0"

/-- The answer grants its session, however its lines end and whatever blanks
and further lines there are. -/
theorem newsAnswer_is_granted :
    Grants newsAnswer newsSession ∧
    Alike () newsAnswer newsAnswerWithReturns ∧
    Alike () newsAnswer (newsAnswer ++ "\r\n") ∧
    Alike () newsAnswer newsAnswerWithBlanks ∧
    ((readHandshake (newsAnswer ++ "INTERVAL 1") :
        Task HandshakeFault Unit Session).run ()).ending = .done newsSession ∧
    readReceipt (newsAnswer ++ "OK") = readReceipt newsAnswer := by
  obtain ⟨hgrants, -, hreended, hending, hrespaced, hmore, hmore'⟩ :=
    handshake_accepts_its_grammar ()
  have hdone : ((readHandshake newsAnswer :
      Task HandshakeFault Unit Session).run ()).ending = .done newsSession := by
    decide +kernel
  have hswitched :
      Text.Reended newsAnswer.toList newsAnswerWithReturns.toList :=
    .line (l := "UPDATE soon".toList) (by decide) (.inl rfl) (.inr rfl)
      (.line (l := "key".toList) (by decide) (.inl rfl) (.inl rfl)
        (.line (l := "http://[::1]/".toList) (by decide) (.inl rfl) (.inr rfl)
          (.rest [])))
  have hblanks :
      Text.Respaced newsAnswer.toList newsAnswerWithBlanks.toList :=
    .cons ⟨['\t'], [], by decide, by decide, rfl⟩
      (.cons ⟨[], [' ', '\r'], by decide, by decide, rfl⟩
        (.cons ⟨[], [], by decide, by decide, rfl⟩
          (.cons ⟨['\u00a0'], [], by decide, by decide, rfl⟩ .nil)))
  refine ⟨(hgrants _ _).mp hdone, hreended _ _ hswitched,
    hending _ _ (.inr rfl), hrespaced _ _ hblanks, ?_,
    hmore' _ _ (by decide)⟩
  rw [hmore _ _ (by decide), hdone]

end ScrobbleRelay.Service.Audioscrobbler
