import MarkupDsl.CommandLine.Arguments

/-!
# Grammars of the commands

The program has two commands, one that converts a document and one that is about tables and has two
commands of its own.  Every one of them has a grammar: what it takes, and how it is explained.
-/

namespace MarkupDsl.CommandLine

def textOfLines (lines : List String) : String := String.join (lines.map fun line => line ++ "\n")

namespace Grammar

def whole : Grammar where
  program := "html2dream"
  usage := textOfLines ["usage: html2dream [-h] \x7bconvert,tables\x7d ..."]
  explanation := textOfLines [
    "",
    "Convert HTML documents into dream-html DSL source.",
    "",
    "positional arguments:",
    "  \x7bconvert,tables\x7d",
    "    convert         Convert an HTML document to DSL source.",
    "    tables          Classification table utilities",
    "",
    "options:",
    "  -h, --help        show this help message and exit"]
  switches := [.help]
  operand := .command "command" ["convert", "tables"]

def convert : Grammar where
  program := "html2dream convert"
  usage := textOfLines [
    "usage: html2dream convert [-h] [--in INPUT] [--out OUTPUT | --clipboard]",
    "                          [--selector SELECTOR] [--wrap NAME]",
    "                          [--skip-blank-text] [--tables TABLES]"]
  explanation := textOfLines [
    "",
    "Parse HTML, select the root element and emit DSL source.",
    "",
    "options:",
    "  -h, --help           show this help message and exit",
    "  --in INPUT           Path to the HTML file (defaults to stdin).",
    "  --out OUTPUT         Path to write the DSL source (defaults to stdout).",
    "  --clipboard          Copy the DSL source to the system clipboard.",
    "  --selector SELECTOR  CSS selector for the root element to convert. Defaults",
    "                       to the html element, or the single top-level element of",
    "                       a fragment.",
    "  --wrap NAME          Wrap the output in 'let NAME = ...' with Dream_html",
    "                       opened.",
    "  --skip-blank-text    Drop whitespace-only text nodes between elements.",
    "  --tables TABLES      Classification tables: a preset name (extended,",
    "                       minimal) or a YAML file. Defaults to extended."]
  switches := [.help, .input, .output, .clipboard, .selector, .wrap, .skipBlankText, .tables]
  operand := .none

def tables : Grammar where
  program := "html2dream tables"
  usage := textOfLines ["usage: html2dream tables [-h] \x7bshow,check\x7d ..."]
  explanation := textOfLines [
    "",
    "Inspect and validate classification tables.",
    "",
    "positional arguments:",
    "  \x7bshow,check\x7d",
    "    show        Print resolved tables as YAML.",
    "    check       Validate a tables YAML file.",
    "",
    "options:",
    "  -h, --help    show this help message and exit"]
  switches := [.help]
  operand := .command "tables_command" ["show", "check"]

def showTables : Grammar where
  program := "html2dream tables show"
  usage := textOfLines ["usage: html2dream tables show [-h] [--tables TABLES]"]
  explanation := textOfLines [
    "",
    "options:",
    "  -h, --help       show this help message and exit",
    "  --tables TABLES  Classification tables: a preset name (extended, minimal) or",
    "                   a YAML file. Defaults to extended."]
  switches := [.help, .tables]
  operand := .none

def checkTables : Grammar where
  program := "html2dream tables check"
  usage := textOfLines ["usage: html2dream tables check [-h] path"]
  explanation := textOfLines [
    "",
    "positional arguments:",
    "  path        Path to the tables YAML file.",
    "",
    "options:",
    "  -h, --help  show this help message and exit"]
  switches := [.help]
  operand := .value "path"

def help (grammar : Grammar) : String := grammar.usage ++ grammar.explanation

def complaint (grammar : Grammar) (misuse : Misuse) : String :=
  grammar.usage ++ grammar.program ++ ": error: " ++ misuse.message ++ "\n"

end Grammar

end MarkupDsl.CommandLine
