import AuthorNames.Log.Event
import AuthorNames.Proofs.PlainUrls

/-! The lines of what is told. An event shows some texts as they are and quotes
the others, so it takes more than one line only where one of those shown as they
are does. -/
namespace AuthorNames.MessageLines
open AuthorNames.PlainNames AuthorNames.PlainUrls
open AuthorNames.Text

/-- The texts that the event shows as they are. -/
def bareTexts : Log.Event → List String
  | .skippingSettings reason => [reason]
  | .starting base domain _ => [base, domain]
  | .fetching url => [url]
  | .nameless identifier => [identifier]
  | .fallingBack _ reason => [reason.text]
  | .finished _ => []

variable {first second : List Char}

theorem feed_notMem_of_plain {text : List Char} (plain : Plain text) : '\n' ∉ text :=
  fun member => absurd (plain _ member) (by decide)

theorem feed_notMem_append (front : '\n' ∉ first) (back : '\n' ∉ second) : '\n' ∉ first ++ second :=
  fun member => (List.mem_append.mp member).elim front back

/-! Quotes. -/

theorem plain_hexDigit : ∀ value < 16, IsPlain (Quoted.hexDigit value) := by
  decide

theorem plain_hexDigits (count value : Nat) : Plain (Quoted.hexDigits count value) := by
  induction count generalizing value with
  | zero => exact plain_nil
  | succ count ih =>
    rw [Quoted.hexDigits]
    split
    · exact plain_cons (plain_hexDigit value (by omega)) plain_nil
    · exact plain_append (ih _) (plain_cons (plain_hexDigit _ (by omega)) plain_nil)

theorem feed_notMem_escape (c : Char) : '\n' ∉ Quoted.escape c := by
  unfold Quoted.escape
  split
  · decide
  split
  · decide
  split
  · decide
  rename_i other
  split
  · decide
  split
  · rename_i quoted
    rcases quoted with rfl | rfl <;> decide
  split
  · exact fun same => other (List.mem_singleton.mp same).symm
  · exact feed_notMem_append (feed_notMem_append (by decide) (feed_notMem_of_plain (plain_hexDigits _ _)))
      (by decide)

/-- A text in quotes takes one line. -/
theorem feed_notMem_quote (text : String) : '\n' ∉ (Quoted.quote text).toList := by
  rw [Quoted.quote, String.toList_ofList]
  refine feed_notMem_append (feed_notMem_append (by decide) fun member => ?_) (by decide)
  obtain ⟨c, -, written⟩ := List.mem_flatMap.mp member
  exact feed_notMem_escape c written

/-! Events. -/

theorem feed_mem_skippedFor (reason : String) :
    '\n' ∈ (Log.Event.skippedFor reason).toList ↔ '\n' ∈ reason.toList := by
  have whole : (Log.Event.skippedFor reason).toList = "skipping user settings: ".toList ++ reason.toList :=
    String.toList_append
  simp [whole]

theorem feed_mem_noPage (message : String) :
    '\n' ∈ (FallbackReason.noPage message).text.toList ↔ '\n' ∈ message.toList := by
  have whole : (FallbackReason.noPage message).text.toList = "request failed: ".toList ++ message.toList :=
    String.toList_append
  simp [whole]

theorem feed_mem_told_iff (e : Log.Event) :
    '\n' ∈ e.text.toList ↔ '\n' ∈ e.title.toList ∨
      ∃ detail ∈ e.details, '\n' ∈ detail.1.toList ∨ '\n' ∈ detail.2.toList := by
  have label : '\n' ∉ e.level.label.toList := by cases e.level <;> simp [Log.Level.label]
  have parts : e.text =
      e.level.label ++ " " ++ e.title ++ String.join (e.details.map fun d => " " ++ d.1 ++ "=" ++ d.2) := rfl
  simp [parts, String.toList_join, label]

/-- **An event takes more than one line exactly if one of the texts does that it
shows as they are.** -/
theorem feed_mem_text_iff (e : Log.Event) :
    '\n' ∈ e.text.toList ↔ ∃ text ∈ bareTexts e, '\n' ∈ text.toList := by
  rw [feed_mem_told_iff]
  cases e with
  | skippingSettings reason => simp [Log.Event.title, Log.Event.details, bareTexts, feed_mem_skippedFor]
  | starting base domain policy =>
    have named : '\n' ∉ (Log.policyName policy).toList := by cases policy <;> simp [Log.policyName]
    simp [Log.Event.title, Log.Event.details, bareTexts, named]
  | fetching url => simp [Log.Event.title, Log.Event.details, bareTexts]
  | nameless identifier => simp [Log.Event.title, Log.Event.details, bareTexts]
  | fallingBack identifier reason => simp [Log.Event.title, Log.Event.details, bareTexts, feed_notMem_quote]
  | finished count =>
    have digits := feed_notMem_of_plain (plain_toString count)
    simpa [Log.Event.title, Log.Event.details, bareTexts] using digits

end AuthorNames.MessageLines
