/-
What the single operations of a pass change.

A turn of the host changes the state of the host and adds the replies that count to the journal.
All else of a pass stays as it is.
-/
import FormRules.Engine.Pass
import Mathlib.Data.List.Nodup

namespace FormRules

variable {Host : Type}

/-- Replies hold none to a ticket that none of them bears. -/
theorem Replies.find?_eq_none_iff (given : Replies) (ticket : Ticket) :
    (given.find? fun entry => entry.1 == ticket) = none ↔ ticket ∉ given.map Prod.fst := by
  simp only [List.find?_eq_none, beq_iff_eq, List.mem_map, not_exists, not_and]

/-- Among replies to different tickets each is found by its ticket. -/
theorem Replies.find?_eq_some_of_mem {given : Replies} (hnodup : (given.map Prod.fst).Nodup)
    {entry : Ticket × Reply} (hentry : entry ∈ given) :
    (given.find? fun other => other.1 == entry.1) = some entry := by
  cases hfind : given.find? fun other => other.1 == entry.1 with
  | none =>
      exact absurd (List.mem_map_of_mem hentry) ((Replies.find?_eq_none_iff _ _).mp hfind)
  | some other =>
      have hticket : other.1 = entry.1 := by simpa using List.find?_some hfind
      rw [List.inj_on_of_nodup_map hnodup (List.mem_of_find?_eq_some hfind) hentry hticket]

namespace Pass

theorem reply?_eq_none_iff (pass : Pass Host) (ticket : Ticket) :
    pass.reply? ticket = none ↔ ticket ∉ pass.journal.replies.map Prod.fst := by
  rw [reply?, heard, Option.map_eq_none_iff, Replies.find?_eq_none_iff]

theorem mem_replies_of_reply? {pass : Pass Host} {ticket : Ticket} {reply : Reply}
    (h : pass.reply? ticket = some reply) : (ticket, reply) ∈ pass.journal.replies := by
  simp only [reply?, heard, Option.map_eq_some_iff] at h
  obtain ⟨entry, hfind, rfl⟩ := h
  have hticket : entry.1 = ticket := by simpa using List.find?_some hfind
  rw [← hticket]
  exact List.mem_of_find?_eq_some hfind

/-- A ticket is open if it was given out in this pass and nothing has been replied to it. -/
theorem isOpen_iff (pass : Pass Host) (ticket : Ticket) :
    pass.isOpen ticket = true ↔
      (pass.firstTicket ≤ ticket ∧ ticket < pass.issued) ∧
        ticket ∉ pass.journal.replies.map Prod.fst := by
  rw [← reply?_eq_none_iff]
  simp [isOpen]

/-- Replies that all count when they are given to a pass one after the other. -/
structure Fresh (pass : Pass Host) (news : Replies) : Prop where
  isOpen : ∀ entry ∈ news, pass.isOpen entry.1 = true
  nodup : (news.map Prod.fst).Nodup

theorem Fresh.nil (pass : Pass Host) : pass.Fresh [] := ⟨by simp, by simp⟩

theorem Fresh.eq_nil {pass : Pass Host} {news : Replies} (h : pass.Fresh news)
    (hclosed : ∀ ticket, pass.isOpen ticket = false) : news = [] := by
  apply List.eq_nil_iff_forall_not_mem.mpr
  intro entry hentry
  have hopen := h.isOpen entry hentry
  rw [hclosed] at hopen
  exact Bool.false_ne_true hopen

theorem isOpen_note_heard (pass : Pass Host) (ticket other : Ticket) (reply : Reply) :
    (pass.note (.heard ticket reply)).isOpen other = true ↔
      pass.isOpen other = true ∧ other ≠ ticket := by
  rw [isOpen_iff, isOpen_iff]
  simp only [note, Journal.replies_append, Journal.replies_cons, Journal.replies_nil,
    List.append_nil, List.map_append, List.map_cons, List.map_nil, List.mem_append,
    List.mem_singleton, not_or, ne_eq, and_assoc]

/-- Of the replies that are given, those that count are added to the journal.  For an open ticket
the first reply counts. -/
theorem exists_hearAll (pass : Pass Host) (given : Replies) :
    ∃ news : Replies,
      pass.hearAll given = { pass with journal := pass.journal ++ Journal.ofReplies news } ∧
      pass.Fresh news ∧
      ∀ ticket, pass.isOpen ticket = true →
        (news.find? fun entry => entry.1 == ticket) =
          given.find? fun entry => entry.1 == ticket := by
  induction given generalizing pass with
  | nil => exact ⟨[], by simp [hearAll, Journal.ofReplies], Fresh.nil pass, by simp⟩
  | cons entry rest ih =>
      cases hopen : pass.isOpen entry.1 with
      | false =>
          obtain ⟨news, heq, hfresh, hfind⟩ := ih pass
          refine ⟨news, ?_, hfresh, ?_⟩
          · rw [← heq]
            simp [hearAll, hear, hopen]
          · intro ticket hticket
            have hne : entry.1 ≠ ticket := by
              rintro rfl
              rw [hopen] at hticket
              exact Bool.false_ne_true hticket
            rw [hfind ticket hticket, List.find?_cons_of_neg (by simpa using hne)]
      | true =>
          obtain ⟨news, heq, hfresh, hfind⟩ := ih (pass.note (.heard entry.1 entry.2))
          refine ⟨entry :: news, ?_, ⟨?_, ?_⟩, ?_⟩
          · have hcons : pass.hearAll (entry :: rest) =
                (pass.note (.heard entry.1 entry.2)).hearAll rest := by
              simp [hearAll, hear, hopen]
            rw [hcons, heq]
            simp [note, Journal.ofReplies]
          · intro other hother
            rcases List.mem_cons.mp hother with rfl | hother
            · exact hopen
            · exact ((isOpen_note_heard pass _ _ _).mp (hfresh.isOpen other hother)).1
          · simp only [List.map_cons, List.nodup_cons, List.mem_map, not_exists, not_and]
            refine ⟨?_, hfresh.nodup⟩
            intro other hother
            exact ((isOpen_note_heard pass _ _ _).mp (hfresh.isOpen other hother)).2
          · intro ticket hticket
            by_cases hsame : entry.1 = ticket
            · simp [hsame]
            · have hstill := (isOpen_note_heard pass entry.1 ticket entry.2).mpr
                ⟨hticket, fun h => hsame h.symm⟩
              rw [List.find?_cons_of_neg (by simpa using hsame),
                List.find?_cons_of_neg (by simpa using hsame), hfind ticket hstill]

theorem exists_takeTurn (pass : Pass Host) (turn : Turn Host) :
    ∃ news : Replies,
      pass.takeTurn turn =
        { pass with
          host := (turn pass.host).1
          journal := pass.journal ++ Journal.ofReplies news } ∧
      pass.Fresh news ∧
      ∀ ticket, pass.isOpen ticket = true →
        (news.find? fun entry => entry.1 == ticket) =
          (turn pass.host).2.find? fun entry => entry.1 == ticket := by
  obtain ⟨news, heq, hfresh, hfind⟩ :=
    exists_hearAll { pass with host := (turn pass.host).1 } (turn pass.host).2
  exact ⟨news, heq, ⟨hfresh.isOpen, hfresh.nodup⟩, hfind⟩

end Pass

namespace Engine

theorem exists_fire (engine : Engine Host) (event : Event) (pass : Pass Host) :
    ∃ (host : Host) (news : Replies),
      engine.fire event pass =
        { pass with
          host := host
          journal := pass.journal ++ .fired event :: Journal.ofReplies news } ∧
      pass.Fresh news := by
  cases hlistener : engine.listener event with
  | none =>
      exact ⟨pass.host, [], by simp [fire, hlistener, Pass.note, Journal.ofReplies],
        Pass.Fresh.nil pass⟩
  | some listener =>
      obtain ⟨news, heq, hfresh, _⟩ := (pass.note (.fired event)).exists_takeTurn listener
      refine ⟨(listener pass.host).1, news, ?_, ⟨?_, hfresh.nodup⟩⟩
      · simp only [fire, hlistener]
        rw [heq]
        simp [Pass.note]
      · intro entry hentry
        have hopen := hfresh.isOpen entry hentry
        rw [Pass.isOpen_iff] at hopen ⊢
        simpa [Pass.note] using hopen

/-- Without an open ticket an event adds itself to the journal and nothing else. -/
theorem exists_fire_of_closed (engine : Engine Host) (event : Event) (pass : Pass Host)
    (hclosed : ∀ ticket, pass.isOpen ticket = false) :
    ∃ host : Host,
      engine.fire event pass =
        { pass with host := host, journal := pass.journal ++ [.fired event] } := by
  obtain ⟨host, news, heq, hfresh⟩ := engine.exists_fire event pass
  rw [hfresh.eq_nil hclosed] at heq
  exact ⟨host, heq⟩

/-- A call adds itself and the replies that come in meanwhile to the journal. -/
theorem exists_call (engine : Engine Host) (index : Nat) (field : String)
    (rule : CustomRule Host) (pass : Pass Host) :
    let input := engine.customInput pass.host field
    let before : Pass Host :=
      { pass with issued := pass.issued + 1 }.note (.called index input pass.issued)
    ∃ news : Replies,
      engine.call index field rule pass =
        { before with
          host := (rule input pass.issued pass.host).1
          journal := before.journal ++ Journal.ofReplies news } ∧
      before.Fresh news ∧
      ∀ ticket, before.isOpen ticket = true →
        (news.find? fun entry => entry.1 == ticket) =
          (rule input pass.issued pass.host).2.find? fun entry => entry.1 == ticket :=
  Pass.exists_takeTurn _ _

/-- A call ends no wait. -/
theorem call_awaited (engine : Engine Host) (index : Nat) (field : String) (rule : CustomRule Host)
    (pass : Pass Host) : (engine.call index field rule pass).awaited = pass.awaited := by
  obtain ⟨_, hcalled, _⟩ := engine.exists_call index field rule pass
  rw [hcalled]
  rfl

theorem settle_of_some (engine : Engine Host) (index : Nat) {ticket : Ticket} {reply : Reply}
    {called : Pass Host} (h : called.reply? ticket = some reply) :
    engine.settle index ticket called = engine.conclude index reply called := by
  simp [settle, h]

theorem settle_of_none (engine : Engine Host) (index : Nat) {ticket : Ticket}
    {called : Pass Host} (h : called.reply? ticket = none) :
    engine.settle index ticket called =
      { called with awaited := called.awaited ++ [(index, ticket)] } := by
  simp [settle, h]

/-- Collecting the reply to a ticket concludes a verdict that is awaited with it, and does nothing
where none is awaited or nothing has been replied. -/
theorem collect_cases (engine : Engine Host) (ticket : Ticket) (pass : Pass Host) :
    (∃ index reply, (index, ticket) ∈ pass.awaited ∧ pass.reply? ticket = some reply ∧
      engine.collect ticket pass = engine.conclude index reply
        { pass with awaited := pass.awaited.filter fun entry => entry.2 != ticket }) ∨
    (ticket ∉ pass.awaited.map Prod.snd ∨ pass.reply? ticket = none) ∧
      engine.collect ticket pass = pass := by
  cases hfind : pass.awaited.find? fun entry => entry.2 == ticket with
  | none =>
      have habsent : ticket ∉ pass.awaited.map Prod.snd := by
        rw [List.mem_map]
        rintro ⟨entry, hentry, rfl⟩
        exact List.find?_eq_none.mp hfind entry hentry (beq_self_eq_true entry.2)
      exact Or.inr ⟨Or.inl habsent, by simp [collect, hfind]⟩
  | some found =>
      obtain ⟨index, other⟩ := found
      obtain rfl : other = ticket := by simpa using List.find?_some hfind
      cases hreply : pass.reply? other with
      | none => exact Or.inr ⟨Or.inr rfl, by simp [collect, hfind, hreply]⟩
      | some reply =>
          exact Or.inl ⟨index, reply, List.mem_of_find?_eq_some hfind, rfl,
            by simp [collect, hfind, hreply]⟩

end Engine

end FormRules
