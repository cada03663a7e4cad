import BuildYard.Text.Blank

/-!
# Image references

A reference names an image: a path of parts, then perhaps a colon and a tag. A
colon before the last slash belongs to the port of a registry. A reference
with an at sign names an image by digest and has no tag; any other without a
tag means the tag `latest`.
-/

set_option autoImplicit false

namespace BuildYard.Reference

/-- The name and the tag to pull. -/
def split (reference : String) : String × String :=
  let cs := reference.toList
  if cs.contains '@' then (reference, "")
  else
    let (dir, base) :=
      match Text.splitLast? '/' cs with
      | some (dir, base) => (dir ++ ['/'], base)
      | none => ([], cs)
    match Text.splitLast? ':' base with
    | some (name, tag) => (String.ofList (dir ++ name), String.ofList tag)
    | none => (reference, "latest")

end BuildYard.Reference
