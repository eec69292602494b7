import Intake.Definition.Names
import Intake.Text.Path

/-!
# Forms from data

`Form.ofData?` makes a form of data that describes one: a record with a list of fields and
perhaps a name.  Without a name the form is called after the source of the data, by
`Path.stem`.

The names in all fields are replaced by what they stand for before any field is read, so an
unknown name is reported ahead of every other mistake in the fields.
-/

namespace Intake

/-- The form that data describes.  Messages name the source of the data. -/
def Form.ofData? (origin : Origin) (source : String) (data : Value) : Load Form := do
  match data with
  | .dict record =>
    match Value.lookupEntry (.text "fields") record with
    | none => refuse (.noFields source)
    | some (.list items) =>
      let fields ← items.zipIdx.mapM fun (item, i) => resolveField? origin i item
      let given := (Value.lookupEntry (.text "name") record).getD .null
      let name := if given.truthy then given else .text (Path.stem source)
      match readForm name fields with
      | .error f => .error (.fault f)
      | .ok (.error issues) => .error (.refused (.invalid source) issues)
      | .ok (.ok (name, fields)) =>
        match Form.of? name fields with
        | .ok form => return form
        | .error m => refuse (.misfit source m)
    | some _ => refuse (.fieldsNotList source)
  | _ => refuse (.notRecord source)

end Intake
