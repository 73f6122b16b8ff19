import CLexicon.Dictionary.Layout

/-!
# Operators

The operators and punctuators of C.
-/

namespace CLexicon.Dictionary

/-- The operators and punctuators of C. -/
def operators : List RawItem := [
  { id := "op-5b-5d", token := "[ ]", category := .operator,
    description := paragraph [
      "Array subscript operator. For `a[b]`, computes `*(a + b)`.",
      "Behavior is undefined if the computed address is out of bounds."],
    sample := some <| lines [
      "int a[3] = \x7b1,2,3\x7d;",
      "int x = a[1];  // 2"] },
  { id := "op-28-29", token := "( )", category := .operator,
    description :=
      "Parentheses for grouping expressions and for function calls.",
    sample := some <| lines [
      "int y = (2 + 3) * 4;  // 20",
      "int f(int);",
      "int r = f(42);"] },
  { id := "op-7b-7d", token := "\x7b \x7d", category := .operator,
    description :=
      "Braces create a compound statement (block) or delimit initializers.",
    sample := some <| lines [
      "if (cond) \x7b int t = 0; /* ... */ \x7d",
      "int a[3] = \x7b1,2,3\x7d;"] },
  { id := "op-2e", token := ".", category := .operator,
    description :=
      "Member access operator for structures/unions via an lvalue object.",
    sample := some <| lines [
      "struct P \x7b int x, y; \x7d p = \x7b1,2\x7d;",
      "int x = p.x;"] },
  { id := "op--3e", token := "->", category := .operator,
    description := paragraph [
      "Member access through a pointer to a structure/union; `p->m` is",
      "`(*p).m`."],
    sample := some <| lines [
      "struct P \x7b int x; \x7d p = \x7b3\x7d;",
      "struct P *pp = &p;",
      "int x = pp->x;  // 3"] },
  { id := "op-2b2b", token := "++", category := .operator,
    description := paragraph [
      "Increment operator. Prefix form yields the incremented value;",
      "postfix yields the original value."],
    sample := some <| lines [
      "int i = 1;",
      "int a = ++i; // i=2, a=2",
      "int b = i++; // i=3, b=2"] },
  { id := "op---", token := "--", category := .operator,
    description := paragraph [
      "Decrement operator. Prefix form yields the decremented value;",
      "postfix yields the original value."],
    sample := some <| lines [
      "int i = 2;",
      "int a = --i; // i=1, a=1",
      "int b = i--; // i=0, b=1"] },
  { id := "op-26", token := "&", category := .operator,
    description := paragraph [
      "Bitwise AND (binary) and address-of (unary). Unary `&` yields the",
      "address of its operand."],
    sample := some <| lines [
      "int a = 6, b = 3; int c = a & b; // 2",
      "int *p = &a; // address-of"] },
  { id := "op-2a", token := "*", category := .operator,
    description :=
      "Multiplication (binary) and indirection/dereference (unary).",
    sample := some <| lines [
      "int prod = 6 * 7; // 42",
      "int *p = &prod; int v = *p; // dereference"] },
  { id := "op-2b", token := "+", category := .operator,
    description := paragraph [
      "Addition (binary) and unary plus (no effect on value). Pointer",
      "arithmetic is scaled by pointed-to type size."],
    sample := some
      "int s = 1 + 2; // 3" },
  { id := "op--", token := "-", category := .operator,
    description := paragraph [
      "Subtraction (binary) and unary negation. Pointer subtraction",
      "yields element count difference for pointers into the same array."],
    sample := some
      "int d = 5 - 2; // 3" },
  { id := "op-7e", token := "~", category := .operator,
    description :=
      "Bitwise NOT (ones' complement) of an integer type.",
    sample := some
      "unsigned char m = (unsigned char)~0u; // 0xFF on 8-bit char" },
  { id := "op-21", token := "!", category := .operator,
    description :=
      "Logical NOT. Converts nonzero to 0 and 0 to 1.",
    sample := some
      "int t = !0; // 1" },
  { id := "op-2f", token := "/", category := .operator,
    description := paragraph [
      "Division. Integer division truncates toward zero; division by zero",
      "is undefined."],
    sample := some
      "int q = 7 / 3; // 2" },
  { id := "op-25", token := "%", category := .operator,
    description := paragraph [
      "Remainder after integer division. Behavior is defined so that `(a",
      "/ b) * b + (a % b) == a` when `b != 0`."],
    sample := some
      "int r = 7 % 3; // 1" },
  { id := "op-3c3c", token := "<<", category := .operator,
    description := paragraph [
      "Left shift. Shifts bits left; shifting into/sign on signed types",
      "is implementation-defined or undefined—prefer unsigned."],
    sample := some
      "unsigned x = 1u << 3; // 8" },
  { id := "op-3e3e", token := ">>", category := .operator,
    description := paragraph [
      "Right shift. On unsigned, logical shift; on signed, arithmetic vs",
      "logical is implementation-defined."],
    sample := some
      "unsigned x = 8u >> 1; // 4" },
  { id := "op-3c", token := "<", category := .operator,
    description :=
      "Less-than relational operator.",
    sample := some
      "int b = (2 < 3); // 1" },
  { id := "op-3e", token := ">", category := .operator,
    description :=
      "Greater-than relational operator.",
    sample := some
      "int b = (3 > 2); // 1" },
  { id := "op-3c3d", token := "<=", category := .operator,
    description :=
      "Less-than-or-equal relational operator.",
    sample := some
      "int b = (2 <= 2); // 1" },
  { id := "op-3e3d", token := ">=", category := .operator,
    description :=
      "Greater-than-or-equal relational operator.",
    sample := some
      "int b = (3 >= 2); // 1" },
  { id := "op-3d3d", token := "==", category := .operator,
    description :=
      "Equality comparison. Compares values after usual conversions.",
    sample := some
      "int b = (2 + 2 == 4); // 1" },
  { id := "op-213d", token := "!=", category := .operator,
    description :=
      "Inequality comparison.",
    sample := some
      "int b = (2 != 3); // 1" },
  { id := "op-5e", token := "^", category := .operator,
    description :=
      "Bitwise XOR (exclusive OR).",
    sample := some
      "int r = 5 ^ 3; // 6" },
  { id := "op-7c", token := "|", category := .operator,
    description :=
      "Bitwise OR.",
    sample := some
      "int r = 5 | 2; // 7" },
  { id := "op-2626", token := "&&", category := .operator,
    description := paragraph [
      "Logical AND with short-circuit evaluation. Evaluates right operand",
      "only if left is nonzero."],
    sample := some
      "if (ptr && *ptr == '\\0') \x7b /* safe only if ptr != NULL */ \x7d" },
  { id := "op-7c7c", token := "||", category := .operator,
    description := paragraph [
      "Logical OR with short-circuit evaluation. Evaluates right operand",
      "only if left is zero."],
    sample := some
      "if (err || fallback()) \x7b /* ... */ \x7d" },
  { id := "op-3f", token := "?", category := .operator,
    description := paragraph [
      "Part of the conditional operator `?:` used as `cond ? expr1 :",
      "expr2`. Ternary operator selects between two expressions based on",
      "`cond`."],
    sample := some
      "int max = (a > b) ? a : b;" },
  { id := "op-3a", token := ":", category := .operator,
    description := paragraph [
      "Used in the conditional operator `?:` and to introduce `case`",
      "labels and bit-field widths."],
    sample := some <| lines [
      "switch (x) \x7b case 1: /* ... */ break; \x7d",
      "struct S \x7b unsigned f:3; \x7d;"] },
  { id := "op-3b", token := ";", category := .operator,
    description := paragraph [
      "Statement terminator; also forms the null statement when used",
      "alone."],
    sample := some
      "while (getchar() != '\\n') ;  // null body" },
  { id := "op-2e2e2e", token := "...", category := .operator,
    description :=
      "Variadic parameter marker in function declarators and prototypes.",
    sample := some
      "int printf(const char *fmt, ...);" },
  { id := "op-3d", token := "=", category := .operator,
    description :=
      "Simple assignment; stores right-hand value into left-hand lvalue.",
    sample := some
      "int x; x = 10;" },
  { id := "op-2a3d", token := "*=", category := .operator,
    description :=
      "Multiplication assignment.",
    sample := some
      "x *= 3;  // x = x * 3" },
  { id := "op-2f3d", token := "/=", category := .operator,
    description :=
      "Division assignment.",
    sample := some
      "x /= 2;  // x = x / 2" },
  { id := "op-253d", token := "%=", category := .operator,
    description :=
      "Remainder assignment.",
    sample := some
      "x %= 3;  // x = x % 3" },
  { id := "op-2b3d", token := "+=", category := .operator,
    description :=
      "Addition assignment.",
    sample := some
      "x += 5;  // x = x + 5" },
  { id := "op--3d", token := "-=", category := .operator,
    description :=
      "Subtraction assignment.",
    sample := some
      "x -= 2;  // x = x - 2" },
  { id := "op-3c3c3d", token := "<<=", category := .operator,
    description :=
      "Left shift assignment.",
    sample := some
      "x <<= 1; // x = x << 1" },
  { id := "op-3e3e3d", token := ">>=", category := .operator,
    description :=
      "Right shift assignment.",
    sample := some
      "x >>= 2; // x = x >> 2" },
  { id := "op-263d", token := "&=", category := .operator,
    description :=
      "Bitwise AND assignment.",
    sample := some
      "x &= 0xFF;" },
  { id := "op-5e3d", token := "^=", category := .operator,
    description :=
      "Bitwise XOR assignment.",
    sample := some
      "x ^= 1;" },
  { id := "op-7c3d", token := "|=", category := .operator,
    description :=
      "Bitwise OR assignment.",
    sample := some
      "x |= 0x10;" },
  { id := "op-2c", token := ",", category := .operator,
    description := paragraph [
      "Comma operator evaluates left expression, discards the value, then",
      "evaluates and yields the right expression."],
    sample := some
      "int y = (x = 1, x + 2); // y = 3" },
  { id := "op-23", token := "#", category := .operator,
    description := paragraph [
      "Preprocessor stringizing operator inside macros: converts a macro",
      "parameter to a string literal."],
    sample := some <| lines [
      "#define S(x) #x",
      "// S(hello) -> \"hello\""] },
  { id := "op-2323", token := "##", category := .operator,
    description := paragraph [
      "Preprocessor token pasting operator: concatenates tokens in macro",
      "expansion."],
    sample := some <| lines [
      "#define CAT(a,b) a##b",
      "// CAT(var, 1) -> var1"] },
  { id := "op-3c3a", token := "<:", category := .operator,
    description :=
      "Digraph for `[` in source code.",
    sample := some
      "int a<:3:> = \x7b1,2,3\x7d; // same as int a[3] = \x7b...\x7d" },
  { id := "op-3a3e", token := ":>", category := .operator,
    description :=
      "Digraph for `]` in source code.",
    sample := some
      "int a<:3:> = \x7b1,2,3\x7d;" },
  { id := "op-3c25", token := "<%", category := .operator,
    description :=
      "Digraph for `\x7b` in source code.",
    sample := some
      "int main()<% return 0; %>" },
  { id := "op-253e", token := "%>", category := .operator,
    description :=
      "Digraph for `\x7d` in source code.",
    sample := some
      "int main()<% return 0; %>" },
  { id := "op-253a", token := "%:", category := .operator,
    description :=
      "Digraph for `#` in source code.",
    sample := some
      "%:define N 10" },
  { id := "op-253a253a", token := "%:%:", category := .operator,
    description :=
      "Digraph for `##` in source code.",
    sample := some
      "#define CAT(a,b) a %:%: b  // token pasting" }]

end CLexicon.Dictionary
