import HotReload.Proofs.Outcome

set_option autoImplicit false

namespace HotReload

namespace Report

def opens : List Report → Bool
  | .opened :: _ => true
  | .message _ :: rest => opens rest
  | _ => false

def untilEnd : List Report → List String
  | .message text :: rest => text :: untilEnd rest
  | .opened :: rest => untilEnd rest
  | _ => []

def spoken : List Report → List String
  | .opened :: rest => untilEnd rest
  | _ :: rest => spoken rest
  | [] => []

theorem untilEnd_append_of_going {reports : List Report}
    (going : ∀ report ∈ reports, report.ends = false) (more : List Report) :
    untilEnd (reports ++ more) = untilEnd reports ++ untilEnd more := by
  induction reports with
  | nil => rfl
  | cons report rest ih =>
    have later := ih fun other member => going other (List.mem_cons_of_mem _ member)
    have first := going report List.mem_cons_self
    cases report with
    | opened => exact later
    | message text => simp [untilEnd, later]
    | failed error => cases first
    | closed => cases first

theorem untilEnd_prefix (reports more : List Report) :
    untilEnd reports <+: untilEnd (reports ++ more) := by
  induction reports with
  | nil => exact List.nil_prefix
  | cons report rest ih =>
    cases report with
    | opened => exact ih
    | message text => exact List.cons_prefix_cons.mpr ⟨rfl, ih⟩
    | failed error => exact List.nil_prefix
    | closed => exact List.nil_prefix

theorem spoken_prefix (reports more : List Report) :
    spoken reports <+: spoken (reports ++ more) := by
  induction reports with
  | nil => exact List.nil_prefix
  | cons report rest ih =>
    cases report with
    | opened => exact untilEnd_prefix rest more
    | message text => exact ih
    | failed error => exact ih
    | closed => exact ih

theorem opens_append {reports : List Report} (opened : opens reports = true) (more : List Report) :
    opens (reports ++ more) = true := by
  induction reports with
  | nil => cases opened
  | cons report rest ih =>
    cases report with
    | opened => rfl
    | message text => exact ih opened
    | failed error => cases opened
    | closed => cases opened

theorem opens_early (early : List String) (later : List Report) :
    opens (early.map .message ++ .opened :: later) = true := by
  induction early with
  | nil => rfl
  | cons text rest ih => exact ih

theorem spoken_early (early : List String) (later : List Report) :
    spoken (early.map .message ++ .opened :: later) = untilEnd later := by
  induction early with
  | nil => rfl
  | cons text rest ih => exact ih

end Report

def Envelope.ofTexts (texts : List String) : List Envelope :=
  (texts.filterMap fun text => (Json.Value.parse text).toOption).map .message

theorem Envelope.ofTexts_concat (texts : List String) (text : String) :
    ofTexts (texts ++ [text]) = ofTexts texts ++ (ofFrame text).toOption.toList := by
  cases parsed : Json.Value.parse text <;>
    simp [ofTexts, ofFrame, parsed, Except.toOption, Except.map]

def Faithful (reports : List Report) (envelopes : List Envelope) : Prop :=
  envelopes = [] ∨ Report.opens reports = true ∧
    ∃ texts, texts <+: Report.spoken reports ∧ envelopes = .connected :: Envelope.ofTexts texts

theorem Faithful.append {reports : List Report} {envelopes : List Envelope}
    (faithful : Faithful reports envelopes) (more : List Report) :
    Faithful (reports ++ more) envelopes := by
  rcases faithful with silent | ⟨opened, texts, some, told⟩
  · exact .inl silent
  · exact .inr ⟨Report.opens_append opened more, texts,
      some.trans (Report.spoken_prefix reports more), told⟩

inductive Followed : ConnectionState → List Report → List Envelope → Prop where
  | connecting (early : List String) : Followed .connecting (early.map .message) []
  | isOpen (early : List String) (later : List Report)
    (going : ∀ report ∈ later, report.ends = false) :
    Followed .open (early.map .message ++ .opened :: later)
      (.connected :: Envelope.ofTexts (Report.untilEnd later))
  | finished {state : ConnectionState} {reports : List Report} {envelopes : List Envelope}
    (ended : state = .idle ∨ state = .reconnecting) (faithful : Faithful reports envelopes) :
    Followed state reports envelopes

namespace Followed

variable {state : ConnectionState} {reports : List Report} {envelopes : List Envelope}

theorem faithful (followed : Followed state reports envelopes) : Faithful reports envelopes := by
  cases followed with
  | connecting early => exact .inl rfl
  | isOpen early later going =>
    refine .inr ⟨Report.opens_early early later, Report.untilEnd later, ?_, rfl⟩
    exact Report.spoken_early early later ▸ List.prefix_refl _
  | finished ended faithful => exact faithful

theorem complete (followed : Followed .open reports envelopes) :
    envelopes = .connected :: Envelope.ofTexts (Report.spoken reports) := by
  cases followed with
  | isOpen early later going => rw [Report.spoken_early]
  | finished ended faithful => rcases ended with idle | waiting <;> contradiction

theorem ended {c : Connection} (followed : Followed c.state reports envelopes)
    (live : c.isLive = true) (config : Config) {report : Report} (ends : report.ends = true) :
    Followed (c.receive config ⟨c.generation, report⟩).connection.state (reports ++ [report])
      (envelopes ++ (c.receive config ⟨c.generation, report⟩).delivery.toList) := by
  obtain ⟨ended, silent⟩ := c.receive_of_ends live config ends
  rw [silent, Option.toList_none, List.append_nil]
  exact finished ended (followed.faithful.append [report])

theorem receive {c : Connection} (followed : Followed c.state reports envelopes) (config : Config)
    (report : Report) :
    Followed (c.receive config ⟨c.generation, report⟩).connection.state (reports ++ [report])
      (envelopes ++ (c.receive config ⟨c.generation, report⟩).delivery.toList) := by
  by_cases ends : c.isLive = true ∧ report.ends = true
  next => exact followed.ended ends.1 config ends.2
  next =>
    generalize state : c.state = now at followed
    cases followed with
    | connecting early =>
      have live : c.isLive = true := by simp [Connection.isLive, state]
      cases report with
      | opened =>
        have next : Followed .open (early.map .message ++ [.opened]) [.connected] :=
          isOpen early [] (List.forall_mem_nil _)
        simpa [Connection.receive, Connection.onOpened, state] using next
      | message text =>
        have next := connecting (early ++ [text])
        simpa [Connection.receive, Connection.onMessage, state] using next
      | failed error => exact absurd ⟨live, rfl⟩ ends
      | closed => exact absurd ⟨live, rfl⟩ ends
    | isOpen early later going =>
      have live : c.isLive = true := by simp [Connection.isLive, state]
      have goesOn : report.ends = false := by simpa [live] using ends
      have next := isOpen early (later ++ [report])
        (List.forall_mem_append.mpr ⟨going, by simpa using goesOn⟩)
      rw [Report.untilEnd_append_of_going going] at next
      cases report with
      | opened => simpa [Connection.receive, Connection.onOpened, state, Report.untilEnd] using next
      | message text =>
        simp only [Report.untilEnd, Envelope.ofTexts_concat] at next
        cases parsed : Envelope.ofFrame text <;>
          simpa [Connection.receive, Connection.onMessage, Connection.touch, state, parsed,
            Except.toOption] using next
      | failed error => cases goesOn
      | closed => cases goesOn
    | finished ended faithful =>
      have dead : c.isLive = false := by
        rcases ended with rfl | rfl <;> simp [Connection.isLive, state]
      rw [c.receive_of_not_live dead, state]
      simpa using finished ended (faithful.append [report])

end Followed

end HotReload
