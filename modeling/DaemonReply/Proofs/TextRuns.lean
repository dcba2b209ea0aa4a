import DaemonReply.Markup.Event

/-!
# Runs of text

One run of character data may be delivered in several pieces, and how it is cut means nothing.
`coalesce` puts the pieces of every run together; `scatter` cuts all text into single
characters, which makes events a list that can be taken apart anywhere. Events that scatter to
the same list coalesce to the same list (`coalesce_eq_of_scatter_eq`).
-/

namespace DaemonReply.Markup.Event

/-! ### Coalescing -/

/-- Puts text in front of events, together with the text they begin with; empty text is
dropped. -/
def joinText (content : String) (events : List Event) : List Event :=
  if content = "" then events
  else
    match events with
    | .text more :: rest => .text (content ++ more) :: rest
    | _ => .text content :: events

/-- Events with adjacent texts merged and empty ones dropped. -/
def coalesce : List Event → List Event
  | [] => []
  | .opened name attributes :: rest => .opened name attributes :: coalesce rest
  | .text content :: rest => joinText content (coalesce rest)
  | .closed name :: rest => .closed name :: coalesce rest

@[simp] theorem joinText_empty (events : List Event) : joinText "" events = events := rfl

/-- Text may be put in front of events piece by piece. -/
theorem joinText_joinText (front back : String) (events : List Event) :
    joinText front (joinText back events) = joinText (front ++ back) events := by
  by_cases hfront : front = ""
  · simp [hfront]
  · by_cases hback : back = ""
    · simp [hback]
    · have hboth : front ++ back ≠ "" := by simp [hfront]
      simp only [joinText, hfront, hback, hboth, if_false]
      rcases events with _ | ⟨event, rest⟩
      · rfl
      · cases event <;> simp [String.append_assoc]

/-! ### Scattering -/

/-- The events of single characters. -/
def letters (text : List Char) : List Event :=
  text.map fun c => .text (String.singleton c)

/-- Events with every text in single characters. -/
def scatter (events : List Event) : List Event :=
  events.flatMap fun
    | .text content => letters content.toList
    | event => [event]

@[simp] theorem letters_nil : letters [] = [] := rfl

@[simp] theorem letters_append (front back : List Char) :
    letters (front ++ back) = letters front ++ letters back := by
  simp [letters]

@[simp] theorem scatter_nil : scatter [] = [] := rfl

@[simp] theorem scatter_opened (name : String) (attributes : List Attribute)
    (rest : List Event) :
    scatter (.opened name attributes :: rest) = .opened name attributes :: scatter rest := rfl

@[simp] theorem scatter_text (content : String) (rest : List Event) :
    scatter (.text content :: rest) = letters content.toList ++ scatter rest := rfl

@[simp] theorem scatter_closed (name : String) (rest : List Event) :
    scatter (.closed name :: rest) = .closed name :: scatter rest := rfl

@[simp] theorem scatter_append (front back : List Event) :
    scatter (front ++ back) = scatter front ++ scatter back := by
  simp [scatter]

/-- Single characters in front of events come together as one text. -/
theorem coalesce_letters_append (text : List Char) (events : List Event) :
    coalesce (letters text ++ events) = joinText (String.ofList text) (coalesce events) := by
  induction text with
  | nil => rfl
  | cons c rest ih =>
    have hcons : String.ofList (c :: rest) = String.singleton c ++ String.ofList rest := by
      rw [← String.toList_inj]
      simp
    rw [hcons, ← joinText_joinText, ← ih]
    rfl

/-- Cutting text changes nothing about its runs. -/
theorem coalesce_scatter (events : List Event) : coalesce (scatter events) = coalesce events := by
  induction events with
  | nil => rfl
  | cons event rest ih =>
    cases event with
    | opened name attributes => rw [scatter_opened, coalesce, coalesce, ih]
    | text content =>
      rw [scatter_text, coalesce_letters_append, ih, String.ofList_toList, coalesce]
    | closed name => rw [scatter_closed, coalesce, coalesce, ih]

/-- **Only the characters count.** -/
theorem coalesce_eq_of_scatter_eq {events events' : List Event}
    (h : scatter events = scatter events') : coalesce events = coalesce events' := by
  rw [← coalesce_scatter events, h, coalesce_scatter]

end DaemonReply.Markup.Event
