import EntityCatalog.Text.Quoted

namespace EntityCatalog.Pattern

inductive Complaint where
  | loneBackslash
  | badEscape (escape : String)
  | incompleteEscape (escape : String)
  | octalTooLarge (escape : String)
  | unknownCharacterName (name : String)
  | missing (what : String)
  | unterminatedName (terminator : Char)
  | badGroupName (name : String)
  | unknownGroupName (name : String)
  | renamedGroup (name : String) (index earlier : Nat)
  | openGroup
  | sameLookbehind
  | noSuchGroup (index : Nat)
  | badGroupNumber
  | unterminatedSet
  | badRange (low high : String)
  | reversedRepeat
  | nothingToRepeat
  | repeatedRepeat
  | endOfPattern
  | unknownExtension (text : String)
  | unterminatedComment
  | unterminatedGroup
  | tooManyBranches
  | lateFlags
  | localeFlag
  | clashingFlags
  | unknownFlag
  | globalFlagOn
  | alphabetOff
  | globalFlagOff
  | flagOnAndOff
  | unbalanced
  | farBehind
  | variableBehind
  | templateRepeat (operator : String)
  | bothAlphabets
deriving DecidableEq, Repr

def Complaint.text : Complaint → String
  | loneBackslash => "bad escape (end of pattern)"
  | badEscape e => "bad escape " ++ e
  | incompleteEscape e => "incomplete escape " ++ e
  | octalTooLarge e => s!"octal escape value {e} outside of range 0-0o377"
  | unknownCharacterName n => s!"undefined character name {n.inQuotes}"
  | missing w => "missing " ++ w
  | unterminatedName t => s!"missing {t}, unterminated name"
  | badGroupName n => s!"bad character in group name {n.inQuotes}"
  | unknownGroupName n => s!"unknown group name {n.inQuotes}"
  | renamedGroup n i e => s!"redefinition of group name {n.inQuotes} as group {i}; was group {e}"
  | openGroup => "cannot refer to an open group"
  | sameLookbehind => "cannot refer to group defined in the same lookbehind subpattern"
  | noSuchGroup i => s!"invalid group reference {i}"
  | badGroupNumber => "bad group number"
  | unterminatedSet => "unterminated character set"
  | badRange l h => s!"bad character range {l}-{h}"
  | reversedRepeat => "min repeat greater than max repeat"
  | nothingToRepeat => "nothing to repeat"
  | repeatedRepeat => "multiple repeat"
  | endOfPattern => "unexpected end of pattern"
  | unknownExtension t => "unknown extension ?" ++ t
  | unterminatedComment => "missing ), unterminated comment"
  | unterminatedGroup => "missing ), unterminated subpattern"
  | tooManyBranches => "conditional backref with more than two branches"
  | lateFlags => "global flags not at the start of the expression"
  | localeFlag => "bad inline flags: cannot use 'L' flag with a str pattern"
  | clashingFlags => "bad inline flags: flags 'a', 'u' and 'L' are incompatible"
  | unknownFlag => "unknown flag"
  | globalFlagOn => "bad inline flags: cannot turn on global flag"
  | alphabetOff => "bad inline flags: cannot turn off flags 'a', 'u' and 'L'"
  | globalFlagOff => "bad inline flags: cannot turn off global flag"
  | flagOnAndOff => "bad inline flags: flag turned on and off"
  | unbalanced => "unbalanced parenthesis"
  | farBehind => "looks too much behind"
  | variableBehind => "look-behind requires fixed-width pattern"
  | templateRepeat op => "internal: unsupported template operator " ++ op
  | bothAlphabets => "ASCII and UNICODE flags are incompatible"

inductive Fault where
  | complaint (what : Complaint) (position : Option Nat)
  | tooManyRounds
deriving DecidableEq, Repr

def Complaint.message (c : Complaint) (position : Option Nat) (pattern : String) : String :=
  match position with
  | none => c.text
  | some p =>
    let cs := pattern.toList
    let before := cs.take p
    let column := (before.reverse.takeWhile (· ≠ '\n')).length + 1
    let line := before.count '\n' + 1
    let place := if cs.contains '\n' then s!" (line {line}, column {column})" else ""
    s!"{c.text} at position {p}{place}"

end EntityCatalog.Pattern
