/-! # Tables

Columns are as wide as their widest cell.
-/

namespace SqlTemplate.CommandLine

/-- The text with spaces after it up to the width. -/
def padRight (width : Nat) (s : String) : String := s ++ String.ofList (List.replicate (width - s.length) ' ')

/-- The widths that hold the cells of a row too. -/
def widen (widths : List Nat) (row : List String) : List Nat :=
  List.zipWith (fun w cell => max w cell.length) widths row

def rowText (widths : List Nat) (row : List String) : String :=
  " │ ".intercalate (List.zipWith padRight widths row)

def ruleText (widths : List Nat) : String :=
  "─┼─".intercalate (widths.map fun w => String.ofList (List.replicate w '─'))

/-- The lines of a table: its header, a rule and the rows. -/
def tableLines (header : List String) (rows : List (List String)) : List String :=
  let widths := rows.foldl widen (header.map String.length)
  rowText widths header :: ruleText widths :: rows.map (rowText widths)

/-! ## The reference of tags -/

def tagReference : List (String × String × String) :=
  [("<if>", "test", "Body when test is truthy"),
    ("<choose>", "", "First <when> whose test holds, else <otherwise>"),
    ("<when>", "test", "Branch of <choose>"),
    ("<otherwise>", "", "Fallback branch of <choose>"),
    ("<trim>", "prefix suffix prefixOverrides suffixOverrides", "Strip and wrap body"),
    ("<where>", "", "WHERE, leading AND/OR removed"),
    ("<set>", "", "SET, trailing comma removed"),
    ("<foreach>", "collection item index open close separator", "Repeat body per element"),
    ("<bind>", "name value", "Bind an expression result"),
    ("<include>", "refid", "Splice a <sql> fragment (mapper files)"),
    ("$\x7bexpr\x7d", "", "Text substitution"),
    ("#\x7bprop,...\x7d", "javaType jdbcType mode numericScale typeHandler", "Bind marker")]

def referenceLine (tag keys effect : String) : String := padRight 14 tag ++ " " ++ padRight 50 keys ++ " " ++ effect

def referenceLines : List String :=
  ["sqlscript Tag Reference", "", referenceLine "Tag" "Attributes" "Effect",
      String.ofList (List.replicate 100 '─')] ++
    tagReference.map fun (tag, keys, effect) => referenceLine tag keys effect

end SqlTemplate.CommandLine
