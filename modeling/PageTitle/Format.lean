import PageTitle.Tag

/-!
# Formats

A format is a text with placeholders. `substitute` puts the value of a tag for each placeholder
and keeps all else, other braces too; `render` normalizes the result.
-/

namespace PageTitle
namespace Format

/-- The tag of a placeholder whose opening brace stands before `t`, and what follows the
placeholder. -/
def tagAt? (t : Text) : Option (Tag × Text) :=
  (Text.cut? (· = '}') t).bind fun (name, rest) => (Tag.ofName? name).map (·, rest)

theorem length_lt_of_tagAt? {t rest : Text} {tag : Tag} (h : tagAt? t = some (tag, rest)) :
    rest.length < t.length := by
  simp only [tagAt?, Option.bind_eq_some_iff, Option.map_eq_some_iff] at h
  obtain ⟨⟨name, rest'⟩, hc, tag', _, heq⟩ := h
  cases heq
  exact Text.length_lt_of_cut? hc

/-- The format with the tags' values in place of their placeholders. The values are not searched
for placeholders. -/
def substitute (env : Environment) : (format : Text) → Text
  | [] => []
  | c :: r =>
    if c = '{' then
      match _h : tagAt? r with
      | some (tag, rest) => tag.value env ++ substitute env rest
      | none => c :: substitute env r
    else c :: substitute env r
termination_by format => format.length
decreasing_by
  all_goals simp_wf
  have := length_lt_of_tagAt? _h
  omega

/-- The title that a format makes of an environment. -/
def render (format : Text) (env : Environment) : Text :=
  Text.normalize (substitute env format)

/-- Whether a format starts with the title's placeholder and holds it nowhere else. -/
def tracksSuffix (format : Text) : Bool :=
  match Text.dropFront? Tag.title.placeholder format with
  | some rest => !Text.occursIn Tag.title.placeholder rest
  | none => false

/-- The format of a program whose user chose none. -/
def standard : Text :=
  "\x7btitle\x7d - \x7bprotocol\x7d://\x7bhostname\x7d\x7bport\x7d/\x7bpath\x7d\x7bargs\x7d\x7bhash\x7d".toList

end Format
end PageTitle
