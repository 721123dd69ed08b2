import SourceBundle.Cli.Options
/-! Shell completion scripts, written from the option table.

Each script offers every option name, completes the values of value-taking options (files for
paths, the listed choices where there are some) and describes each option by its help text,
quoted as the shell needs. Options that take values come first, then switches, each in the
order of the table. In the templates `⦃` and `⦄` stand for braces. -/
namespace SourceBundle.Cli

def unbrace (s : String) : String := (s.replace "⦃" "\x7b").replace "⦄" "\x7d"

def valueOptions : List Opt := options.filter Opt.takesValue

def switches : List Opt := options.filter (!·.takesValue)

def completionOrder : List Opt := valueOptions ++ switches

def repeatable (o : Opt) : Bool := o.action == .count || o.action == .append

/-! ### bash -/

def bashValues (o : Opt) : String :=
  if o.choices.isEmpty then unbrace "$(compgen -f \"$⦃cur⦄\")"
  else unbrace ("$(compgen -W \"" ++ " ".intercalate o.choices ++ "\" -- \"$⦃cur⦄\")")

def bashCase (flag : String) (o : Opt) : String :=
  "\n                " ++ flag ++ ")\n                    COMPREPLY=(" ++ bashValues o ++
    ")\n                    return 0\n                    ;;"

def bashScript : String :=
  let name := programName
  let shorts := options.filterMap fun o => o.short.map fun c => "-" ++ c.toString
  let longs := options.map fun o => "--" ++ o.long
  let cases := valueOptions.map fun o =>
    bashCase ("--" ++ o.long) o ++ (o.short.map fun c => bashCase ("-" ++ c.toString) o).getD ""
  unbrace ("_" ++ name ++ "() ⦃
    local i cur prev opts cmd
    COMPREPLY=()
    if [[ \"$⦃BASH_VERSINFO[0]⦄\" -ge 4 ]]; then
        cur=\"$2\"
    else
        cur=\"$⦃COMP_WORDS[COMP_CWORD]⦄\"
    fi
    prev=\"$3\"
    cmd=\"\"
    opts=\"\"

    for i in \"$⦃COMP_WORDS[@]:0:COMP_CWORD⦄\"
    do
        case \"$⦃cmd⦄,$⦃i⦄\" in
            \",$1\")
                cmd=\"" ++ name ++ "\"
                ;;
            *)
                ;;
        esac
    done

    case \"$⦃cmd⦄\" in
        " ++ name ++ ")
            opts=\"" ++ " ".intercalate (shorts ++ longs) ++ "\"
            if [[ $⦃cur⦄ == -* || $⦃COMP_CWORD⦄ -eq 1 ]] ; then
                COMPREPLY=( $(compgen -W \"$⦃opts⦄\" -- \"$⦃cur⦄\") )
                return 0
            fi
            case \"$⦃prev⦄\" in" ++ String.join cases ++ "
                *)
                    COMPREPLY=()
                    ;;
            esac
            COMPREPLY=( $(compgen -W \"$⦃opts⦄\" -- \"$⦃cur⦄\") )
            return 0
            ;;
    esac
⦄

if [[ \"$⦃BASH_VERSINFO[0]⦄\" -eq 4 && \"$⦃BASH_VERSINFO[1]⦄\" -ge 4 || \"$⦃BASH_VERSINFO[0]⦄\" -gt 4 ]]; then
    complete -F _" ++ name ++ " -o nosort -o bashdefault -o default " ++ name ++ "
else
    complete -F _" ++ name ++ " -o bashdefault -o default " ++ name ++ "
fi
")

/-! ### zsh -/

def zshHelp (s : String) : String :=
  s.toList.foldl (fun acc c =>
    acc ++ match c with
      | '\\' => "\\\\"
      | '\'' => "'\\''"
      | '[' => "\\["
      | ']' => "\\]"
      | ':' => "\\:"
      | '$' => "\\$"
      | '\n' => " "
      | c => if c.toNat == 96 then "\\" ++ c.toString else c.toString) ""

def zshConflicts (o : Opt) : String :=
  let names := o.conflicts.filterMap byId? |>.flatMap fun x =>
    (x.short.map fun c => "-" ++ c.toString).toList ++ ["--" ++ x.long]
  if names.isEmpty then "" else "(" ++ " ".intercalate names ++ ")"

def zshValues (o : Opt) : String :=
  if !o.choices.isEmpty then "(" ++ " ".intercalate o.choices ++ ")"
  else if o.hint == .path then "_files" else "_default"

def zshLines (o : Opt) : List String :=
  let lead := "'" ++ zshConflicts o ++ (if repeatable o then "*" else "")
  let help := "[" ++ zshHelp o.help ++ "]"
  if o.takesValue then
    let tail := help ++ ":" ++ o.valueName ++ ":" ++ zshValues o ++ "' \\"
    (o.short.map fun c => lead ++ "-" ++ c.toString ++ "+" ++ tail).toList ++
      [lead ++ "--" ++ o.long ++ "=" ++ tail]
  else
    (o.short.map fun c => lead ++ "-" ++ c.toString ++ help ++ "' \\").toList ++
      [lead ++ "--" ++ o.long ++ help ++ "' \\"]

def zshScript : String :=
  let name := programName
  unbrace ("#compdef " ++ name ++ "

autoload -U is-at-least

_" ++ name ++ "() ⦃
    typeset -A opt_args
    typeset -a _arguments_options
    local ret=1

    if is-at-least 5.2; then
        _arguments_options=(-s -S -C)
    else
        _arguments_options=(-s -C)
    fi

    local context curcontext=\"$curcontext\" state line
    _arguments \"$⦃_arguments_options[@]⦄\" : \\
" ++ "\n".intercalate (completionOrder.flatMap zshLines) ++ "
&& ret=0
⦄

(( $+functions[_" ++ name ++ "_commands] )) ||
_" ++ name ++ "_commands() ⦃
    local commands; commands=()
    _describe -t commands '" ++ name ++ " commands' commands \"$@\"
⦄

if [ \"$funcstack[1]\" = \"_" ++ name ++ "\" ]; then
    _" ++ name ++ " \"$@\"
else
    compdef _" ++ name ++ " " ++ name ++ "
fi
")

/-! ### fish -/

def fishQuote (s : String) : String := (s.replace "\\" "\\\\").replace "'" "\\'"

def fishValues (o : Opt) : String :=
  if !o.takesValue then ""
  else if !o.choices.isEmpty then
    " -r -f -a \"" ++ "\n".intercalate (o.choices.map fun c => fishQuote c ++ "\\t''") ++ "\""
  else if o.hint == .path then " -r -F" else " -r"

def fishLine (o : Opt) : String :=
  "complete -c " ++ programName ++ ((o.short.map fun c => " -s " ++ c.toString).getD "") ++
    " -l " ++ fishQuote o.long ++ " -d '" ++ fishQuote (o.help.replace "\n" " ") ++ "'" ++
    fishValues o

def fishScript : String := String.join (completionOrder.map (fishLine · ++ "\n"))

/-! ### elvish -/

def elvishLines (o : Opt) : List String :=
  let tip := o.help.replace "'" "''"
  let names := (o.short.map fun c => "-" ++ c.toString).toList ++ ["--" ++ o.long]
  names.map fun n => "\n            cand " ++ n ++ " '" ++ tip ++ "'"

def elvishScript : String :=
  let name := programName
  unbrace ("
use builtin;
use str;

set edit:completion:arg-completer[" ++ name ++ "] = ⦃|@words|
    fn spaces ⦃|n|
        builtin:repeat $n ' ' | str:join ''
    ⦄
    fn cand ⦃|text desc|
        edit:complex-candidate $text &display=$text' '(spaces (- 14 (wcswidth $text)))$desc
    ⦄
    var command = '" ++ name ++ "'
    for word $words[1..-1] ⦃
        if (str:has-prefix $word '-') ⦃
            break
        ⦄
        set command = $command';'$word
    ⦄
    var completions = [
        &'" ++ name ++ "'= ⦃" ++ String.join (completionOrder.flatMap elvishLines) ++ "
        ⦄
    ]
    $completions[$command]
⦄
")

/-! ### PowerShell -/

def powershellLines (o : Opt) : List String :=
  let tip := o.help.replace "'" "''"
  let entry (shown listed : String) :=
    "\n            [CompletionResult]::new('" ++ shown ++ "', '" ++ listed ++
      "', [CompletionResultType]::ParameterName, '" ++ tip ++ "')"
  (o.short.map fun c =>
      let s := "-" ++ c.toString
      entry s (if c.isUpper then s ++ " " else s)).toList ++
    [entry ("--" ++ o.long) ("--" ++ o.long)]

def powershellScript : String :=
  let name := programName
  unbrace ("
using namespace System.Management.Automation
using namespace System.Management.Automation.Language

Register-ArgumentCompleter -Native -CommandName '" ++ name ++ "' -ScriptBlock ⦃
    param($wordToComplete, $commandAst, $cursorPosition)

    $commandElements = $commandAst.CommandElements
    $command = @(
        '" ++ name ++ "'
        for ($i = 1; $i -lt $commandElements.Count; $i++) ⦃
            $element = $commandElements[$i]
            if ($element -isnot [StringConstantExpressionAst] -or
                $element.StringConstantType -ne [StringConstantType]::BareWord -or
                $element.Value.StartsWith('-') -or
                $element.Value -eq $wordToComplete) ⦃
                break
        ⦄
        $element.Value
    ⦄) -join ';'

    $completions = @(switch ($command) ⦃
        '" ++ name ++ "' ⦃" ++ String.join (completionOrder.flatMap powershellLines) ++ "
            break
        ⦄
    ⦄)

    $completions.Where⦃ $_.CompletionText -like \"$wordToComplete*\" ⦄ |
        Sort-Object -Property ListItemText
⦄
")

def completionScript : Shell → String
  | .bash => bashScript
  | .elvish => elvishScript
  | .fish => fishScript
  | .powershell => powershellScript
  | .zsh => zshScript

end SourceBundle.Cli
