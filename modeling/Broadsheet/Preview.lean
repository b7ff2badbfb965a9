/-!
# Broadsheet.Preview

The document that shows what a style looks like: every kind of element once.
-/

namespace Broadsheet

/-- The document that is rendered to preview a style. -/
def previewDocument : String :=
  "---\n" ++
  "title: 样式预览\n" ++
  "---\n" ++
  "\n" ++
  "# 一级标题\n" ++
  "\n" ++
  "## 二级标题\n" ++
  "\n" ++
  "### 三级标题\n" ++
  "\n" ++
  "正文段落包含 **加粗**、*强调*、~~删除线~~ 和 `行内代码`。\n" ++
  "软换行会保留为换行，\n" ++
  "就像这一行。\n" ++
  "\n" ++
  "> 引用段落，用于摘录和说明。\n" ++
  "\n" ++
  "> [!TIP]\n" ++
  "> 提示块会带上图标与标题。\n" ++
  "\n" ++
  "> [!WARNING]\n" ++
  "> 警告块使用独立的样式。\n" ++
  "\n" ++
  "1. 有序列表\n" ++
  "2. 第二项\n" ++
  "   - 嵌套无序列表\n" ++
  "   - 另一项\n" ++
  "3. 第三项\n" ++
  "\n" ++
  "- [x] 已完成的任务\n" ++
  "- [ ] 待办任务\n" ++
  "\n" ++
  "| 名称 | 说明 | 数量 |\n" ++
  "| :--- | :---: | ---: |\n" ++
  "| 主题 | 经典 / 优雅 | 2 |\n" ++
  "| 字号 | 12px 至 16px | 5 |\n" ++
  "\n" ++
  "```rust\n" ++
  "fn main() \x7b\n" ++
  "\tprintln!(\"Hello, mdstyle!\");\n" ++
  "\x7d\n" ++
  "```\n" ++
  "\n" ++
  "![示例图片](https://example.com/cover.png \"图片标题\")\n" ++
  "\n" ++
  "外部链接会按设置转为引用：[Rust 官网](https://www.rust-lang.org \"Rust\")。\n" ++
  "\n" ++
  "---\n" ++
  "\n" ++
  "文末段落。\n"

end Broadsheet
